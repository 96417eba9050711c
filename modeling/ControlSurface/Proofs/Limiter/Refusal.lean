import ControlSurface.Proofs.Limiter.Isolation

/-!
# Refused requests

What a refused request leaves behind. A request that runs the generator may be refused for the
general limit after it has been charged for the generator: this charge stays. Other refused requests
leave no trace, and it changes nothing for the others if they are left out.
-/

namespace ControlSurface.Limiter

/-- Whether a request has been charged for the generator and then refused for the general limit. -/
def IsHalfCharged (r : Arrival) (v : Verdict) : Prop :=
  isGeneration r.path = true ∧ v = .generalRefused

instance (r : Arrival) (v : Verdict) : Decidable (IsHalfCharged r v) :=
  inferInstanceAs (Decidable (_ ∧ _))

/-- A refused request is charged for the generator, or not at all. -/
lemma charges_of_refused {r : Arrival} {v : Verdict} (hpath : r.path ≠ healthPath)
    (hv : v ≠ .admitted) :
    r.charges v = if IsHalfCharged r v then [(generationKey r.client, r.time)] else [] := by
  cases v with
  | admitted => exact absurd rfl hv
  | generationRefused => simp [Arrival.charges, hpath, IsHalfCharged]
  | generalRefused => simp [Arrival.charges, hpath, IsHalfCharged]

variable {limits : Limits} {start : Seconds} {s : State} {log : List (String × Seconds)}
  {before after : List Arrival} {r : Arrival}

lemma ne_healthPath_of_refused (h : (step limits s r).1 ≠ .admitted) : r.path ≠ healthPath := by
  intro hpath
  rw [step, if_pos hpath] at h
  exact h rfl

/-- The charges that count are those of before, and the one of a half-charged request. -/
lemma recent_chargesOf_step_of_refused (hs : s.WellKept) (h : (step limits s r).1 ≠ .admitted)
    (key : String) :
    recent r.time ((step limits s r).2.chargesOf key) =
      recent r.time (s.chargesOf key ++
        if IsHalfCharged r (step limits s r).1 ∧ key = generationKey r.client then [r.time]
        else []) := by
  obtain ⟨kept, htrims, heq⟩ := chargesOf_step limits hs r key
  rw [heq, charges_of_refused (ne_healthPath_of_refused h) h, recent_append, recent_append,
    htrims.recent_eq]
  by_cases hhalf : IsHalfCharged r (step limits s r).1 <;>
    by_cases hkey : key = generationKey r.client <;> simp [hhalf, hkey]

/-! ### Runs with one request less -/

/-- The log of a ledger. -/
def logAfter (limits : Limits) (requests : List Arrival) : List (String × Seconds) :=
  logOf (ledger limits [] requests)

lemma ledger_append (limits : Limits) (log : List (String × Seconds))
    (before after : List Arrival) :
    ledger limits log (before ++ after) = ledger limits log before ++
      ledger limits (log ++ logOf (ledger limits log before)) after := by
  induction before generalizing log with
  | nil => simp [ledger, logOf]
  | cons r rest ih =>
    rw [List.cons_append, ledger, ih, ledger, logOf_cons, List.append_assoc]
    rfl

lemma ledger_concat (limits : Limits) (requests : List Arrival) (r : Arrival) :
    ledger limits [] (requests ++ [r]) =
      ledger limits [] requests ++ [(r, judge limits (logAfter limits requests) r)] :=
  ledger_append limits [] requests [r]

lemma logAfter_concat (limits : Limits) (requests : List Arrival) (r : Arrival) :
    logAfter limits (requests ++ [r]) = logAfter limits requests ++
      r.charges (judge limits (logAfter limits requests) r) := by
  rw [logAfter, ledger_concat, logOf_append, logOf_singleton]
  rfl

lemma length_ledger (limits : Limits) (log : List (String × Seconds)) (requests : List Arrival) :
    (ledger limits log requests).length = requests.length := by
  induction requests generalizing log with
  | nil => rfl
  | cons r rest ih => rw [ledger, List.length_cons, List.length_cons, ih]

/-- A request without charges is not missed in the ledger. -/
lemma ledger_eraseIdx (h : r.charges (judge limits (logAfter limits before) r) = []) :
    ledger limits [] (before ++ after) =
      (ledger limits [] (before ++ r :: after)).eraseIdx before.length := by
  have hlength := length_ledger limits [] before
  rw [ledger_append, ledger_append, List.nil_append, ledger, ← logAfter, h, List.append_nil,
    ← hlength, List.eraseIdx_append_of_length_le le_rfl, Nat.sub_self, List.eraseIdx_cons_zero]

/-- What is decided about a request that follows others. -/
def verdictAfter (limits : Limits) (start : Seconds) (before : List Arrival) (r : Arrival) :
    Verdict :=
  (step limits (run limits (State.start start) before).2 r).1

/-- Whether it changes no decision about the other requests of a run if one is left out. -/
def CanBeLeftOut (limits : Limits) (start : Seconds) (before : List Arrival) (r : Arrival)
    (after : List Arrival) : Prop :=
  decided limits (State.start start) (before ++ after) =
    (decided limits (State.start start) (before ++ r :: after)).eraseIdx before.length

/-- The table after some requests, when another one comes. -/
lemma follows_run (limits : Limits) (start : Seconds)
    (hclock : ((before ++ [r]).map Arrival.time).Pairwise Seconds.Precedes) :
    Follows Seconds.Precedes counts (run limits (State.start start) before).2
      (logAfter limits before) [r.time] := by
  rw [List.map_append] at hclock
  have hbefore := (List.pairwise_append.1 hclock).1
  have h := (Follows.start start).run window_counts limits hclock
  rwa [List.nil_append, decided_eq_ledger limits start hbefore] at h

lemma verdictAfter_eq_judge (limits : Limits) (start : Seconds)
    (hclock : ((before ++ [r]).map Arrival.time).Pairwise Seconds.Precedes) :
    verdictAfter limits start before r = judge limits (logAfter limits before) r :=
  (follows_run limits start hclock).step_eq_judge

lemma canBeLeftOut_iff (limits : Limits) (start : Seconds)
    (hclock : ((before ++ r :: after).map Arrival.time).Pairwise Seconds.Precedes) :
    CanBeLeftOut limits start before r after ↔ ledger limits [] (before ++ after) =
      (ledger limits [] (before ++ r :: after)).eraseIdx before.length := by
  have hsub : (before ++ after).Sublist (before ++ r :: after) :=
    (List.Sublist.refl _).append (List.sublist_cons_self _ _)
  rw [CanBeLeftOut, decided_eq_ledger limits start hclock,
    decided_eq_ledger limits start (hclock.sublist (hsub.map _))]

/-- Whether the clock of a run is in order and the request is refused in it. -/
def IsRefusedIn (limits : Limits) (start : Seconds) (before : List Arrival) (r : Arrival)
    (after : List Arrival) : Prop :=
  ((before ++ r :: after).map Arrival.time).Pairwise Seconds.Precedes ∧
    verdictAfter limits start before r ≠ .admitted

lemma pairwise_of_append_cons
    (h : ((before ++ r :: after).map Arrival.time).Pairwise Seconds.Precedes) :
    ((before ++ [r]).map Arrival.time).Pairwise Seconds.Precedes := by
  have hsub : (before ++ [r]).Sublist (before ++ r :: after) :=
    (List.Sublist.refl _).append (List.singleton_sublist.2 (List.mem_cons_self ..))
  exact h.sublist (hsub.map _)

/-- Refused requests that are not half-charged can be left out. -/
theorem canBeLeftOut_of_refused (h : IsRefusedIn limits start before r after)
    (hhalf : ¬IsHalfCharged r (verdictAfter limits start before r)) :
    CanBeLeftOut limits start before r after := by
  obtain ⟨hclock, hrefused⟩ := h
  have hverdict := verdictAfter_eq_judge limits start (pairwise_of_append_cons hclock)
  rw [canBeLeftOut_iff limits start hclock]
  apply ledger_eraseIdx
  rw [← hverdict, charges_of_refused (ne_healthPath_of_refused hrefused) hrefused, if_neg hhalf]

/-- The charges that count after a refused request, in terms of those before it. -/
theorem recent_chargesOf_run_of_refused (h : IsRefusedIn limits start before r [])
    (key : String) :
    recent r.time ((run limits (State.start start) (before ++ [r])).2.chargesOf key) =
      recent r.time ((run limits (State.start start) before).2.chargesOf key ++
        if IsHalfCharged r (verdictAfter limits start before r) ∧ key = generationKey r.client
        then [r.time] else []) := by
  rw [run_concat_snd]
  exact recent_chargesOf_step_of_refused (follows_run limits start h.1).wellKept h.2 key

/-- If the generator is never admitted, no request is charged for it and refused. -/
lemma not_isHalfCharged (hgeneration : limits.generation ≤ 0)
    (hclock : ((before ++ [r]).map Arrival.time).Pairwise Seconds.Precedes) :
    ¬IsHalfCharged r (verdictAfter limits start before r) := by
  rintro ⟨hgen, hv⟩
  have hrefused : verdictAfter limits start before r = .generationRefused := by
    rw [verdictAfter_eq_judge limits start hclock, judge_eq_generationRefused_iff]
    exact ⟨ne_healthPath_of_isGeneration hgen, hgen, hgeneration.trans (Int.natCast_nonneg _)⟩
  rw [hrefused] at hv
  exact Verdict.noConfusion hv

/-! ### Runs in which a half charge shows -/

/-- Charges at the zero of the clock, to a client and to its generator key. -/
def chargesAtZero (client : String) (general generation : ℕ) : List (String × Seconds) :=
  List.replicate general (client, .whole 0) ++
    List.replicate generation (generationKey client, .whole 0)

/-- Requests at the zero of the clock, the last ones of which run the generator. -/
def requestsAtZero (client : String) (general generation : ℕ) : List Arrival :=
  List.replicate general (arrivalOf "/" client) ++
    List.replicate generation (arrivalOf generationPath client)

variable {client : String} {m n : ℕ}

lemma burden_append (now : Seconds) (key : String) (log log' : List (String × Seconds)) :
    burden now key (log ++ log') = burden now key log + burden now key log' := by
  rw [burden, chargesTo_append, recent_append, List.length_append]
  rfl

lemma burden_replicate (key k : String) (n : ℕ) :
    burden (.whole 0) key (List.replicate n (k, .whole 0)) = if key = k then n else 0 := by
  induction n with
  | zero => simp [burden, recent]
  | succ n ih =>
    have hone : burden (.whole 0) key [(k, .whole 0)] = if key = k then 1 else 0 := by
      by_cases h : key = k <;> simp [burden, h, recent, window]
    rw [List.replicate_succ', burden_append, ih, hone]
    split_ifs <;> rfl

/-- What is decided about a request at the zero of the clock behind such charges. -/
lemma judge_chargesAtZero (limits : Limits) (path client : String) (m n : ℕ) :
    judge limits (chargesAtZero client m n) (arrivalOf path client) =
      verdictOf limits path n m := by
  have hne := generationKey_ne client
  simp [judge, arrivalOf, chargesAtZero, burden_append, burden_replicate, hne, hne.symm]

lemma logAfter_general (h : (m : ℤ) ≤ max limits.general 0) :
    logAfter limits (requestsAtZero client m 0) = chargesAtZero client m 0 := by
  have hroot : "/" ≠ healthPath := by decide
  have hgen : isGeneration "/" = false := by decide
  induction m with
  | zero => rfl
  | succ m ih =>
    have hfree : ¬limits.general ≤ m := by omega
    have hcharges : logAfter limits (List.replicate m (arrivalOf "/" client)) =
        List.replicate m (client, .whole 0) := by
      simpa [requestsAtZero, chargesAtZero] using ih (by omega)
    have hjudge := judge_chargesAtZero limits "/" client m 0
    simp only [chargesAtZero, List.replicate_zero, List.append_nil] at hjudge
    simp only [requestsAtZero, chargesAtZero, List.replicate_zero, List.append_nil]
    rw [List.replicate_succ', List.replicate_succ', logAfter_concat, hcharges, hjudge]
    simp [verdictOf, Arrival.charges, arrivalOf, hroot, hgen, hfree]

lemma requestsAtZero_succ (client : String) (m n : ℕ) : requestsAtZero client m (n + 1) =
    requestsAtZero client m n ++ [arrivalOf generationPath client] := by
  simp [requestsAtZero, List.replicate_succ']

/-- Requests that run the generator are half-charged if there is no more room for others. -/
lemma logAfter_generation (hgeneral : limits.general ≤ m) (hm : (m : ℤ) ≤ max limits.general 0)
    (hn : (n : ℤ) ≤ limits.generation) :
    logAfter limits (requestsAtZero client m n) = chargesAtZero client m n := by
  have hhealth : generationPath ≠ healthPath := by decide
  have hgen : isGeneration generationPath = true := by decide
  induction n with
  | zero => exact logAfter_general hm
  | succ n ih =>
    have hfree : ¬limits.generation ≤ n := by omega
    have hcharges : chargesAtZero client m (n + 1) =
        chargesAtZero client m n ++ [(generationKey client, .whole 0)] := by
      simp [chargesAtZero, List.replicate_succ']
    rw [requestsAtZero_succ, hcharges, logAfter_concat, ih (by omega), judge_chargesAtZero]
    simp [verdictOf, Arrival.charges, arrivalOf, hhealth, hgen, hfree, hgeneral]

/-- Such a request is refused for the one limit or the other. -/
lemma judge_generation (hgeneral : limits.general ≤ m) (hm : (m : ℤ) ≤ max limits.general 0)
    (hn : (n : ℤ) ≤ limits.generation) :
    judge limits (logAfter limits (requestsAtZero client m n)) (arrivalOf generationPath client) =
      if limits.generation ≤ n then .generationRefused else .generalRefused := by
  have hhealth : generationPath ≠ healthPath := by decide
  have hruns : isGeneration generationPath = true := by decide
  rw [logAfter_generation hgeneral hm hn, judge_chargesAtZero]
  simp [verdictOf, hhealth, hruns, hgeneral]

/-- As long as there is room for the generator, but none for other requests, a half-charged request
takes away some of it. -/
lemma not_canBeLeftOut (client : String) (start : Seconds) (hgeneral : limits.general ≤ m)
    (hm : (m : ℤ) ≤ max limits.general 0) (hn : (n : ℤ) + 1 = limits.generation) :
    IsRefusedIn limits start (requestsAtZero client m 0) (arrivalOf generationPath client)
        (List.replicate (n + 1) (arrivalOf generationPath client)) ∧
      ¬CanBeLeftOut limits start (requestsAtZero client m 0) (arrivalOf generationPath client)
        (List.replicate (n + 1) (arrivalOf generationPath client)) := by
  set gen := arrivalOf generationPath client with hgen
  have hclock : ((requestsAtZero client m 0 ++ gen :: List.replicate (n + 1) gen).map
      Arrival.time).Pairwise Seconds.Precedes := by
    apply pairwise_of_still
    simp [requestsAtZero, hgen, arrivalOf, or_imp]
  constructor
  · have hempty : ¬limits.generation ≤ (0 : ℕ) := by omega
    refine ⟨hclock, ?_⟩
    rw [verdictAfter_eq_judge limits start (pairwise_of_append_cons hclock),
      judge_generation hgeneral hm (by omega), if_neg hempty]
    exact Verdict.noConfusion
  · -- The last request finds no room for the generator, but does if the first one is left out.
    have hlast : ¬limits.generation ≤ n := by omega
    have hrequests (k : ℕ) : requestsAtZero client m 0 ++ List.replicate k gen =
        requestsAtZero client m k := by simp [requestsAtZero, hgen]
    have hlength : (requestsAtZero client m 0).length <
        (ledger limits [] (requestsAtZero client m (n + 1))).length := by
      rw [length_ledger]
      simp [requestsAtZero]
    rw [canBeLeftOut_iff limits start hclock, hrequests, ← List.replicate_succ, hrequests,
      requestsAtZero_succ client m n, requestsAtZero_succ client m (n + 1), ledger_concat,
      ledger_concat, judge_generation (n := n) hgeneral hm (by omega),
      judge_generation (n := n + 1) hgeneral hm (by omega), if_neg hlast, if_pos (by omega),
      List.eraseIdx_append_of_lt_length hlength]
    intro heq
    have hpair := congrArg List.getLast? heq
    rw [List.getLast?_concat, List.getLast?_concat] at hpair
    simp at hpair

/-- Refused requests can be left out if and only if the generator is never admitted. -/
lemma refused_canBeLeftOut_iff (limits : Limits) :
    (∀ start before r after, IsRefusedIn limits start before r after →
      CanBeLeftOut limits start before r after) ↔ limits.generation ≤ 0 := by
  constructor
  · intro h
    by_contra hpos
    obtain ⟨n, hn⟩ : ∃ n : ℕ, (n : ℤ) + 1 = limits.generation :=
      ⟨(limits.generation - 1).toNat, by omega⟩
    have hm : ((max limits.general 0).toNat : ℤ) = max limits.general 0 :=
      Int.toNat_of_nonneg (le_max_right _ _)
    obtain ⟨hrefused, hshows⟩ := not_canBeLeftOut "" (.whole 0)
      (hm ▸ le_max_left limits.general 0) hm.le hn
    exact hshows (h _ _ _ _ hrefused)
  · intro hgeneration start before r after h
    exact canBeLeftOut_of_refused h
      (not_isHalfCharged hgeneration (pairwise_of_append_cons h.1))

/-- A refused request is charged for the generator at most, and only if it is refused for the
general limit. Apart from such requests, refused ones can be left out of any run; all of them can if
and only if the generator is never admitted at all. -/
theorem refused_leaves_generation_charge (limits : Limits) :
    (∀ start before r, IsRefusedIn limits start before r [] → ∀ key,
      recent r.time ((run limits (State.start start) (before ++ [r])).2.chargesOf key) =
        recent r.time ((run limits (State.start start) before).2.chargesOf key ++
          if IsHalfCharged r (verdictAfter limits start before r) ∧ key = generationKey r.client
          then [r.time] else [])) ∧
      (∀ start before r after, IsRefusedIn limits start before r after →
        ¬IsHalfCharged r (verdictAfter limits start before r) →
        CanBeLeftOut limits start before r after) ∧
      ((∀ start before r after, IsRefusedIn limits start before r after →
        CanBeLeftOut limits start before r after) ↔ limits.generation ≤ 0) :=
  ⟨fun _ _ _ h key => recent_chargesOf_run_of_refused h key,
    fun _ _ _ _ h hhalf => canBeLeftOut_of_refused h hhalf, refused_canBeLeftOut_iff limits⟩

/-- With limits of one, a second request runs the generator at the same time as a first one. It is
refused, but its charge is there, and it matters to those behind. -/
theorem refused_leaves_generation_charge_single :
    recent (.whole 0) ((run ⟨1, 1, false⟩ (State.start (.whole 0))
        [arrivalOf "/" "a", arrivalOf generationPath "a"]).2.chargesOf "a:generate") =
      [.whole 0] ∧
    ¬∀ start before r after, IsRefusedIn ⟨1, 1, false⟩ start before r after →
      CanBeLeftOut ⟨1, 1, false⟩ start before r after := by
  obtain ⟨hcharges, -, hiff⟩ := refused_leaves_generation_charge ⟨1, 1, false⟩
  have hrefused : IsRefusedIn ⟨1, 1, false⟩ (.whole 0) [arrivalOf "/" "a"]
      (arrivalOf generationPath "a") [] :=
    ⟨pairwise_of_still (by decide), by decide⟩
  refine ⟨(hcharges _ _ _ hrefused "a:generate").trans (by decide), ?_⟩
  rw [hiff]
  decide

end ControlSurface.Limiter
