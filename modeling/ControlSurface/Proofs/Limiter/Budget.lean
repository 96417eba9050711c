import ControlSurface.Proofs.Limiter.Log
import ControlSurface.Proofs.Limiter.Minute

/-!
# Budgets

In no minute are more requests of a client admitted than its limits allow, wherever the minute
begins, if the readings of the clock are exact. For two readings that are not, there is a run in
which a client is admitted twice although its limit is one.
-/

namespace ControlSurface.Limiter

lemma window_isWithinMinute :
    Window (fun t r => t.Precedes r ∧ IsExact t r) isWithinMinute where
  ordered h := h.1.not_isBelow
  now h := h.2
  later htr hrr h := htr.2 (isWithinMinute_of_precedes htr.1 hrr.1 h)

/-! ### Counting -/

/-- Whether a request of a client has been admitted that is not for the health of the service. -/
def isAdmitted (client : String) (p : Arrival × Verdict) : Bool :=
  p.1.client = client ∧ p.1.path ≠ healthPath ∧ p.2 = .admitted

/-- Whether a request of a client that runs the generator has been admitted. -/
def isGenerated (client : String) (p : Arrival × Verdict) : Bool :=
  p.1.client = client ∧ isGeneration p.1.path = true ∧ p.2 = .admitted

lemma isAdmitted_iff (client : String) (p : Arrival × Verdict) : isAdmitted client p = true ↔
    p.1.client = client ∧ p.1.path ≠ healthPath ∧ p.2 = .admitted := by
  simp [isAdmitted]

lemma isGenerated_iff (client : String) (p : Arrival × Verdict) : isGenerated client p = true ↔
    p.1.client = client ∧ isGeneration p.1.path = true ∧ p.2 = .admitted := by
  simp [isGenerated]

lemma isAdmitted_of_isGenerated {client : String} {p : Arrival × Verdict}
    (h : isGenerated client p = true) : isAdmitted client p = true := by
  obtain ⟨hclient, hgen, hv⟩ := (isGenerated_iff client p).1 h
  exact (isAdmitted_iff client p).2 ⟨hclient, ne_healthPath_of_isGeneration hgen, hv⟩

open scoped Classical in
/-- How many requests of a class lie in the minute that ends at a time. -/
noncomputable def countInMinute (T : ℝ) (select : Arrival × Verdict → Bool)
    (past : List (Arrival × Verdict)) : ℕ :=
  past.countP fun p => select p ∧ InMinute T p.1.time

open scoped Classical in
lemma countInMinute_mono {select select' : Arrival × Verdict → Bool}
    (h : ∀ p, select p = true → select' p = true) (T : ℝ) (past : List (Arrival × Verdict)) :
    countInMinute T select past ≤ countInMinute T select' past := by
  apply List.countP_mono_left
  intro p _ hp
  rw [decide_eq_true_eq] at hp ⊢
  exact ⟨h p hp.1, hp.2⟩

/-! ### One budget -/

/-- A class of requests that are all charged to a key, and only while it has been charged less often
than a limit within the minute. -/
structure Budget (limits : Limits) (select : Arrival × Verdict → Bool) (key : String)
    (limit : Int) : Prop where
  charged : ∀ {r v}, select (r, v) = true → chargesTo key (r.charges v) = [r.time]
  limited : ∀ {s : State} {r}, s.WellKept → select (r, (step limits s r).1) = true →
    ((recent r.time (s.chargesOf key)).length : ℤ) < limit

lemma budget_isAdmitted (limits : Limits) (client : String) :
    Budget limits (isAdmitted client) client limits.general where
  charged := by
    intro r v h
    obtain ⟨rfl, hpath, rfl⟩ := (isAdmitted_iff client (r, v)).1 h
    have hne := (generationKey_ne r.client).symm
    rw [Arrival.charges, if_neg hpath, chargesTo_append]
    split <;> simp [hne]
  limited := by
    intro s r hs h
    obtain ⟨rfl, hpath, hv⟩ := (isAdmitted_iff client _).1 h
    rw [step_fst limits hs, verdictOf, if_neg hpath] at hv
    split_ifs at hv with _ hlimit
    exact not_le.1 hlimit

lemma budget_isGenerated (limits : Limits) (client : String) :
    Budget limits (isGenerated client) (generationKey client) limits.generation where
  charged := by
    intro r v h
    obtain ⟨rfl, hgen, rfl⟩ := (isGenerated_iff client (r, v)).1 h
    have hne := generationKey_ne r.client
    simp [Arrival.charges, ne_healthPath_of_isGeneration hgen, hgen, hne]
  limited := by
    intro s r hs h
    obtain ⟨rfl, hgen, hv⟩ := (isGenerated_iff client _).1 h
    rw [step_fst limits hs, verdictOf, if_neg (ne_healthPath_of_isGeneration hgen)] at hv
    split_ifs at hv with hlimit
    exact not_le.1 fun h => hlimit ⟨hgen, h⟩

variable {limits : Limits} {select : Arrival × Verdict → Bool} {key : String} {limit : Int}
  {T : ℝ}

lemma Budget.times_sublist (hb : Budget limits select key limit) (past : List (Arrival × Verdict)) :
    ((past.filter select).map fun p => p.1.time).Sublist (chargesTo key (logOf past)) := by
  induction past with
  | nil => exact List.Sublist.refl _
  | cons p rest ih =>
    have hlog : chargesTo key (logOf (p :: rest)) =
        chargesTo key (p.1.charges p.2) ++ chargesTo key (logOf rest) := by
      rw [← chargesTo_append]
      rfl
    rw [hlog, List.filter_cons]
    split
    · next hp =>
      rw [hb.charged hp]
      exact ih.cons_cons _
    · exact ih.trans (List.sublist_append_right _ _)

open scoped Classical in
/-- At a request in some minute the key bears all charges for the requests of the class in this
minute, and they count. -/
lemma Budget.countInMinute_le {s : State} {past : List (Arrival × Verdict)} {r : Arrival}
    {future : List Seconds} (hb : Budget limits select key limit)
    (hf : Follows (fun t r => t.Precedes r ∧ IsExact t r) isWithinMinute s (logOf past)
      (r.time :: future)) (hr : InMinute T r.time) :
    countInMinute T select past ≤ (recent r.time (s.chargesOf key)).length := by
  calc countInMinute T select past
      = (((past.filter select).map fun p => p.1.time).filter (InMinute T ·)).length := by
        rw [countInMinute, ← List.countP_eq_length_filter, List.countP_map, List.countP_filter]
        simp [Bool.and_comm]
    _ ≤ ((chargesTo key (logOf past)).filter (InMinute T ·)).length :=
        ((hb.times_sublist past).filter _).length_le
    _ ≤ ((chargesTo key (logOf past)).filter (isWithinMinute r.time)).length := by
        apply List.Sublist.length_le
        apply List.monotone_filter_right
        intro t ht
        exact hr.isWithinMinute (of_decide_eq_true ht)
    _ ≤ (recent r.time (s.chargesOf key)).length :=
        (hf.filter_sublist_recent window_isWithinMinute key).length_le

/-- A budget is kept to the end of a run if it has been kept so far. -/
lemma Budget.countInMinute_decided_le (hb : Budget limits select key limit)
    (requests : List Arrival) (s : State) (past : List (Arrival × Verdict))
    (hf : Follows (fun t r => t.Precedes r ∧ IsExact t r) isWithinMinute s (logOf past)
      (requests.map Arrival.time))
    (hclock : (requests.map Arrival.time).Pairwise fun t r => t.Precedes r ∧ IsExact t r)
    (hpast : (countInMinute T select past : ℤ) ≤ max limit 0) :
    (countInMinute T select (past ++ decided limits s requests) : ℤ) ≤ max limit 0 := by
  induction requests generalizing s past with
  | nil => simpa using hpast
  | cons r rest ih =>
    obtain ⟨hnow, hrest⟩ := List.pairwise_cons.1 hclock
    rw [decided_cons, ← List.singleton_append, ← List.append_assoc]
    apply ih
    · rw [logOf_append, logOf_singleton]
      exact hf.step window_isWithinMinute limits hnow
    · exact hrest
    · rw [countInMinute, List.countP_append, List.countP_singleton]
      split
      · next hr =>
        obtain ⟨hselect, hT⟩ : select (r, (step limits s r).1) = true ∧ InMinute T r.time := by
          simpa using hr
        have hcount := hb.countInMinute_le hf hT
        have hlimit := hb.limited hf.wellKept hselect
        rw [countInMinute] at hcount
        push_cast
        omega
      · exact hpast

/-- In no minute are more requests of a client admitted than the general limit allows, nor more that
run the generator than both limits allow. -/
theorem countInMinute_le_limits (limits : Limits) (start : Seconds) (requests : List Arrival)
    (hclock : (requests.map Arrival.time).Pairwise Seconds.Precedes)
    (hexact : (requests.map Arrival.time).Pairwise IsExact) (client : String) (T : ℝ) :
    (countInMinute T (isAdmitted client) (decided limits (State.start start) requests) : ℤ) ≤
        max limits.general 0 ∧
      (countInMinute T (isGenerated client) (decided limits (State.start start) requests) : ℤ) ≤
        max (min limits.generation limits.general) 0 := by
  have hboth := hclock.and hexact
  have hrun {select : Arrival × Verdict → Bool} {key : String} {limit : Int}
      (hb : Budget limits select key limit) :
      (countInMinute T select (decided limits (State.start start) requests) : ℤ) ≤
        max limit 0 := by
    have h := hb.countInMinute_decided_le (T := T) requests (State.start start) []
      (Follows.start start) hboth (by simp [countInMinute])
    simpa using h
  have hgeneral := hrun (budget_isAdmitted limits client)
  have hgeneration := hrun (budget_isGenerated limits client)
  have hsub : countInMinute T (isGenerated client) (decided limits (State.start start) requests) ≤
      countInMinute T (isAdmitted client) (decided limits (State.start start) requests) :=
    countInMinute_mono (fun _ => isAdmitted_of_isGenerated) T _
  refine ⟨hgeneral, ?_⟩
  omega

/-- Requests at 0, 59.5 and 60.25 seconds. -/
theorem countInMinute_le_limits_doubles :
    let requests : List Arrival := [⟨"a", "/", .double (.finite false 0 0)⟩,
      ⟨"a", "/", .double (.finite false 119 (-1))⟩, ⟨"a", "/", .double (.finite false 241 (-2))⟩]
    ((requests.map Arrival.time).Pairwise Seconds.Precedes ∧
      (requests.map Arrival.time).Pairwise IsExact) ∧
    (countInMinute 60 (isAdmitted "a")
        (decided ⟨1, 1, false⟩ (State.start (.whole 0)) requests) : ℤ) ≤ max 1 0 ∧
      (countInMinute 60 (isGenerated "a")
        (decided ⟨1, 1, false⟩ (State.start (.whole 0)) requests) : ℤ) ≤ max (min 1 1) 0 ∧
      (run ⟨1, 1, false⟩ (State.start (.whole 0)) requests).1 =
        [.admitted, .generalRefused, .admitted] := by
  intro requests
  have hclock : (requests.map Arrival.time).Pairwise Seconds.Precedes := by
    refine .cons ?_ (.cons ?_ (List.pairwise_singleton _ _))
    · intro t ht
      simp only [List.map_cons, List.map_nil, List.mem_cons, List.not_mem_nil, or_false] at ht
      rcases ht with rfl | rfl <;> exact precedes_double (by norm_num)
    · intro t ht
      simp only [List.map_cons, List.map_nil, List.mem_singleton] at ht
      subst ht
      exact precedes_double (by norm_num)
  have hexact : (requests.map Arrival.time).Pairwise IsExact := by
    apply pairwise_isExact hclock
    intro t ht
    simp only [requests, List.map_cons, List.map_nil, List.mem_cons, List.not_mem_nil, or_false]
      at ht
    rcases ht with rfl | rfl | rfl <;> exact ⟨by norm_num, by decide, by decide⟩
  obtain ⟨hadmitted, hgenerated⟩ :=
    countInMinute_le_limits ⟨1, 1, false⟩ (.whole 0) requests hclock hexact "a" 60
  exact ⟨⟨hclock, hexact⟩, hadmitted, hgenerated, by decide +kernel⟩

/-! ### Readings that are not exact -/

/-- If an earlier reading drops out of the minute of a later one by rounding, then a client with a
limit of one is admitted at both. -/
theorem run_of_not_counts (generation : Int) (trustForwarded : Bool) (start : Seconds)
    {t now : Seconds} (h : counts now t = false) (client : String)
    (path : String) (hpath : path ≠ healthPath) (hgen : isGeneration path = false) :
    (run ⟨1, generation, trustForwarded⟩ (State.start start)
      [⟨client, path, t⟩, ⟨client, path, now⟩]).1 = [.admitted, .admitted] := by
  set limits : Limits := ⟨1, generation, trustForwarded⟩
  have hstart := State.wellKept_start start
  have hfirst : (step limits (State.start start) ⟨client, path, t⟩).1 = .admitted := by
    rw [step_fst limits hstart]
    simp [verdictOf, hpath, hgen, State.chargesOf, State.start, limits, recent]
  set s := (step limits (State.start start) ⟨client, path, t⟩).2 with hs
  have hkept : s.WellKept := hstart.step limits _ fun key u hu => absurd hu List.not_mem_nil
  have hcharges : s.chargesOf client = [t] := by
    obtain ⟨kept, htrims, heq⟩ := chargesOf_step limits hstart ⟨client, path, t⟩ client
    rw [List.sublist_nil.1 htrims.sublist, hfirst] at heq
    simpa [Arrival.charges, hpath, hgen] using heq
  have hsecond : (step limits s ⟨client, path, now⟩).1 = .admitted := by
    rw [step_fst limits hkept, hcharges]
    simp [verdictOf, hpath, hgen, recent_eq_filter, h, limits]
  simp only [run, hfirst, hsecond, ← hs]

/-- With a limit of one, requests at a minute and at 2 ^ -49 seconds before the zero of the clock
are both admitted. -/
theorem not_countInMinute_le_limits : ¬ ∀ (limits : Limits) (start : Seconds)
    (requests : List Arrival), (requests.map Arrival.time).Pairwise Seconds.Precedes →
    ∀ (client : String) (T : ℝ),
      (countInMinute T (isAdmitted client) (decided limits (State.start start) requests) : ℤ) ≤
          max limits.general 0 ∧
        (countInMinute T (isGenerated client) (decided limits (State.start start) requests) : ℤ) ≤
          max (min limits.generation limits.general) 0 := by
  intro h
  let t : Seconds := .double (.finite true (15 * 2 ^ 49) (-47))
  let now : Seconds := .double (.finite true (2 ^ 52) (-101))
  have ht : t.position? = some (0, -60) := by
    rw [Seconds.position?, Binary64.position?_finite]
    norm_num [Binary64.signum]
  have hnow : now.position? = some (0, -(2 ^ 49)⁻¹) := by
    rw [Seconds.position?, Binary64.position?_finite]
    norm_num [Binary64.signum]
  have hclock : t.Precedes now := by
    refine ⟨_, _, ht, hnow, Prod.Lex.toLex_le_toLex.2 (.inr ⟨rfl, ?_⟩)⟩
    norm_num
  have hcounts : counts now t = false := by decide
  have hverdicts := run_of_not_counts 1 false (.whole 0) hcounts "a" "/" (by decide) (by decide)
  have hbound := (h ⟨1, 1, false⟩ (.whole 0) [⟨"a", "/", t⟩, ⟨"a", "/", now⟩]
    (List.pairwise_pair.2 hclock) "a" (-(2 ^ 49)⁻¹)).1
  have htMinute : InMinute (-(2 ^ 49)⁻¹) t := ⟨-60, ht, by norm_num, by norm_num⟩
  have hnowMinute : InMinute (-(2 ^ 49)⁻¹) now := ⟨_, hnow, by norm_num, by norm_num⟩
  rw [decided, hverdicts] at hbound
  simp [countInMinute, isAdmitted, healthPath, htMinute, hnowMinute] at hbound

end ControlSurface.Limiter
