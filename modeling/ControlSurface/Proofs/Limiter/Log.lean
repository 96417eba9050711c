import ControlSurface.Proofs.Limiter.Table

/-!
# The log of a run

The table forgets charges and whole keys. Whatever it forgets, it agrees with the log of all charges
ever made on those that are of interest at a reading of the clock yet to come.
-/

namespace ControlSurface.Limiter

/-! ### Runs -/

/-- The requests of a run with what was decided about each. -/
def decided (limits : Limits) (s : State) (requests : List Arrival) : List (Arrival × Verdict) :=
  requests.zip (run limits s requests).1

@[simp] lemma decided_nil (limits : Limits) (s : State) : decided limits s [] = [] := rfl

@[simp] lemma decided_cons (limits : Limits) (s : State) (r : Arrival) (rest : List Arrival) :
    decided limits s (r :: rest) =
      (r, (step limits s r).1) :: decided limits (step limits s r).2 rest := rfl

lemma run_concat_snd (limits : Limits) (s : State) (requests : List Arrival) (r : Arrival) :
    (run limits s (requests ++ [r])).2 = (step limits (run limits s requests).2 r).2 := by
  induction requests generalizing s with
  | nil => rfl
  | cons q rest ih => exact ih (step limits s q).2

/-- All charges of the requests that have been decided about. -/
def logOf (past : List (Arrival × Verdict)) : List (String × Seconds) :=
  past.flatMap fun p => p.1.charges p.2

lemma logOf_cons (p : Arrival × Verdict) (past : List (Arrival × Verdict)) :
    logOf (p :: past) = p.1.charges p.2 ++ logOf past := List.flatMap_cons

@[simp] lemma logOf_append (past more : List (Arrival × Verdict)) :
    logOf (past ++ more) = logOf past ++ logOf more := List.flatMap_append

lemma logOf_singleton (r : Arrival) (v : Verdict) : logOf [(r, v)] = r.charges v := by
  simp [logOf]

/-! ### The table and the log -/

/-- When what still counts at a later reading can be told from the table: `R` relates the readings
of a run, earlier ones to later ones, and `V` tells which charges are of interest at a reading. All
of these have to count then, and at all readings in between. -/
structure Window (R : Seconds → Seconds → Prop) (V : Seconds → Seconds → Bool) : Prop where
  ordered : ∀ {t r}, R t r → r.isBelow t = false
  now : ∀ {t r}, R t r → V r t = true → counts r t = true
  later : ∀ {t r r'}, R t r → R r r' → V r' t = true → counts r t = true

/-- Whether the table agrees with the log of all charges ever made, on the charges of interest at
the readings to come. -/
structure Follows (R : Seconds → Seconds → Prop) (V : Seconds → Seconds → Bool) (s : State)
    (log : List (String × Seconds)) (future : List Seconds) : Prop where
  wellKept : s.WellKept
  sublist : ∀ key, (s.chargesOf key).Sublist (chargesTo key log)
  filter_eq : ∀ key, ∀ r ∈ future,
    (s.chargesOf key).filter (V r) = (chargesTo key log).filter (V r)
  past : ∀ p ∈ log, ∀ r ∈ future, R p.2 r

namespace Follows

variable {R : Seconds → Seconds → Prop} {V : Seconds → Seconds → Bool} {s : State}
  {log : List (String × Seconds)} {future : List Seconds} {r : Arrival}

lemma start (now : Seconds) : Follows R V (State.start now) [] future where
  wellKept := State.wellKept_start now
  sublist _ := List.Sublist.refl _
  filter_eq _ _ _ := rfl
  past _ h := absurd h List.not_mem_nil

lemma rel_of_mem (h : Follows R V s log future) {key : String} {t u : Seconds}
    (ht : t ∈ s.chargesOf key) (hu : u ∈ future) : R t u :=
  h.past _ (mem_of_mem_chargesTo ((h.sublist key).subset ht)) u hu

/-- The table goes on agreeing with the log when a request is decided about. -/
theorem step (hw : Window R V) (limits : Limits) (h : Follows R V s log (r.time :: future))
    (hr : ∀ u ∈ future, R r.time u) :
    Follows R V (step limits s r).2 (log ++ r.charges (step limits s r).1) future := by
  have hnow {key t} (ht : t ∈ s.chargesOf key) : R t r.time :=
    h.rel_of_mem ht (List.mem_cons_self ..)
  refine ⟨?_, fun key => ?_, fun key u hu => ?_, fun p hp u hu => ?_⟩
  · exact h.wellKept.step limits r fun key t ht => hw.ordered (hnow ht)
  · obtain ⟨kept, htrims, heq⟩ := chargesOf_step limits h.wellKept r key
    rw [heq, chargesTo_append]
    exact (htrims.sublist.trans (h.sublist key)).append (List.Sublist.refl _)
  · obtain ⟨kept, htrims, heq⟩ := chargesOf_step limits h.wellKept r key
    have hkept : kept.filter (V u) = (s.chargesOf key).filter (V u) :=
      htrims.filter_eq (V u) fun t ht hV => hw.later (hnow ht) (hr u hu) hV
    rw [heq, chargesTo_append, List.filter_append, List.filter_append, hkept,
      h.filter_eq key u (List.mem_cons_of_mem _ hu)]
  · rcases List.mem_append.1 hp with hp | hp
    · exact h.past p hp u (List.mem_cons_of_mem _ hu)
    · rw [time_of_mem_charges hp]
      exact hr u hu

/-- So it does throughout a run. -/
theorem run (hw : Window R V) (limits : Limits) {requests : List Arrival}
    (h : Follows R V s log (requests.map Arrival.time ++ future))
    (hclock : (requests.map Arrival.time ++ future).Pairwise R) :
    Follows R V (run limits s requests).2 (log ++ logOf (decided limits s requests)) future := by
  induction requests generalizing s log with
  | nil => simpa [logOf, Limiter.run] using h
  | cons r rest ih =>
    obtain ⟨hnow, hrest⟩ := List.pairwise_cons.1 hclock
    have hnext := ih (h.step hw limits hnow) hrest
    rwa [List.append_assoc, ← logOf_singleton, ← logOf_append, List.singleton_append,
      ← decided_cons] at hnext

/-- What is of interest in the log is found in the table, among the charges that count. -/
theorem filter_sublist_recent (hw : Window R V) (h : Follows R V s log (r.time :: future))
    (key : String) : ((chargesTo key log).filter (V r.time)).Sublist
      (recent r.time (s.chargesOf key)) := by
  have hcounts : ∀ t ∈ s.chargesOf key, V r.time t = true → counts r.time t = true :=
    fun t ht hV => hw.now (h.rel_of_mem ht (List.mem_cons_self ..)) hV
  rw [← h.filter_eq key r.time (List.mem_cons_self ..),
    ← (Trims.recent r.time (s.chargesOf key)).filter_eq _ hcounts]
  exact List.filter_sublist

end Follows

end ControlSurface.Limiter
