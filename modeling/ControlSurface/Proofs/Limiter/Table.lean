import ControlSurface.Service.Limiter
import ControlSurface.Proofs.Clock

/-!
# The table of the limiter

What a request does to the charges of each key: some that no longer count are dropped, and the
request is decided about by those that do. Sweeping the table never drops a charge that counts,
since the charges of a key are in order.
-/

namespace ControlSurface.Limiter

/-! ### Charges that count -/

/-- Whether a charge still counts at a reading of the clock. -/
def counts (now t : Seconds) : Bool := (now.minus window).isBelow t

lemma recent_eq_filter (now : Seconds) (charges : List Seconds) :
    recent now charges = charges.filter (counts now) := rfl

lemma recent_append (now : Seconds) (charges more : List Seconds) :
    recent now (charges ++ more) = recent now charges ++ recent now more :=
  List.filter_append charges more

lemma ofInt_sixty : Binary64.ofInt 60 = .finite false (15 * 2 ^ 49) (-47) := by decide

/-- The beginnings of the minutes that end at readings in order are in order, rounded or not. -/
lemma precedes_minus_window {r r' : Seconds} (h : r.Precedes r') :
    (r.minus window).Precedes (r'.minus window) := by
  cases r with
  | whole m =>
    cases r' with
    | whole n => exact Int.sub_le_sub_right h 60
    | double y => exact h.elim
  | double x =>
    cases r' with
    | whole n => exact h.elim
    | double y =>
      show (x.sub (Binary64.ofInt 60)).AtMost (y.sub (Binary64.ofInt 60))
      rw [ofInt_sixty]
      exact Binary64.AtMost.sub h false _ _

/-- What counts at a reading counted at those before it. -/
lemma counts_of_precedes {t r r' : Seconds} (h : r.Precedes r') (ht : counts r' t = true) :
    counts r t = true :=
  (precedes_minus_window h).isBelow ht

/-- Whether no charge is earlier than one before it. -/
def InOrder (charges : List Seconds) : Prop := charges.Pairwise fun t u => u.isBelow t = false

/-- Whether charges are what is left of others once some that no longer count have been dropped. -/
structure Trims (now : Seconds) (old kept : List Seconds) : Prop where
  sublist : kept.Sublist old
  filter_eq : ∀ p : Seconds → Bool, (∀ t ∈ old, p t = true → counts now t = true) →
    kept.filter p = old.filter p

namespace Trims

variable {now : Seconds} {old kept rest : List Seconds}

lemma refl (old : List Seconds) : Trims now old old := ⟨List.Sublist.refl _, fun _ _ => rfl⟩

lemma trans (h : Trims now old kept) (h' : Trims now kept rest) : Trims now old rest where
  sublist := h'.sublist.trans h.sublist
  filter_eq p hp := by
    rw [h'.filter_eq p fun t ht => hp t (h.sublist.subset ht), h.filter_eq p hp]

/-- All charges that are recent at one reading count at it. -/
lemma recent (now : Seconds) (old : List Seconds) : Trims now old (recent now old) where
  sublist := List.filter_sublist
  filter_eq p hp := by
    rw [recent_eq_filter, List.filter_filter]
    apply List.filter_congr
    intro t ht
    cases hpt : p t
    · rfl
    · simp [hp t ht hpt]

lemma nil (h : ∀ t ∈ old, counts now t = false) : Trims now old [] where
  sublist := List.nil_sublist _
  filter_eq p hp := by
    symm
    rw [List.filter_nil, List.filter_eq_nil_iff]
    intro t ht hpt
    simpa [h t ht] using hp t ht hpt

lemma recent_eq (h : Trims now old kept) : Limiter.recent now kept = Limiter.recent now old :=
  h.filter_eq (counts now) fun _ _ => id

end Trims

/-- Nothing of a stale list counts. -/
lemma trims_nil_of_isStale {now : Seconds} {charges : List Seconds} (hord : InOrder charges)
    (h : isStale now charges = true) : Trims now charges [] := by
  apply Trims.nil
  intro t ht
  obtain ⟨last, hlast⟩ : ∃ last, charges.getLast? = some last := by
    cases hl : charges.getLast? with
    | none => simp [List.getLast?_eq_none_iff.1 hl] at ht
    | some last => exact ⟨last, rfl⟩
  have hbelow : last.isBelow (now.minus window) = true := by
    simpa [isStale, hlast] using h
  rw [Bool.eq_false_iff]
  intro hcounts
  have hlt : last.isBelow t = true := Seconds.isBelow_trans hbelow hcounts
  obtain ⟨front, rfl⟩ := List.getLast?_eq_some_iff.1 hlast
  rcases List.mem_append.1 ht with hfront | hlast'
  · have := (List.pairwise_append.1 hord).2.2 t hfront last (List.mem_singleton_self _)
    rw [this] at hlt
    exact Bool.noConfusion hlt
  · rw [List.mem_singleton.1 hlast', Seconds.isBelow_irrefl] at hlt
    exact Bool.noConfusion hlt

/-! ### The table -/

/-- Whether each key occurs once in the table and its charges are in order. -/
structure State.WellKept (s : State) : Prop where
  nodup : (Keyed.keys s.charges).Nodup
  inOrder : ∀ key, InOrder (s.chargesOf key)

lemma State.wellKept_start (now : Seconds) : (State.start now).WellKept where
  nodup := List.nodup_nil
  inOrder _ := List.Pairwise.nil

lemma lookup_filter {α : Type} (p : α → Bool) (key : String) {pairs : List (String × α)}
    (h : (Keyed.keys pairs).Nodup) :
    (pairs.filter fun q => p q.2).lookup key = (pairs.lookup key).filter p := by
  induction pairs with
  | nil => rfl
  | cons q rest ih =>
    obtain ⟨k, v⟩ := q
    obtain ⟨hfresh, hrest⟩ : k ∉ Keyed.keys rest ∧ (Keyed.keys rest).Nodup := List.nodup_cons.1 h
    have hnone : rest.lookup k = none := by
      rw [List.lookup_eq_none_iff]
      intro q hq
      have : q.1 ∈ Keyed.keys rest := List.mem_map_of_mem hq
      rw [bne_iff_ne]
      rintro rfl
      exact hfresh this
    rw [List.filter_cons, Keyed.lookup_cons_eq]
    by_cases hp : p v = true
    · rw [if_pos hp, Keyed.lookup_cons_eq, ih hrest]
      by_cases hk : key = k
      · simp [hk, Option.filter, hp]
      · simp [hk]
    · rw [if_neg hp, ih hrest]
      by_cases hk : key = k
      · simp [hk, Option.filter, hp, hnone]
      · simp [hk]

lemma chargesOf_sweep {s : State} (h : (Keyed.keys s.charges).Nodup) (now : Seconds)
    (key : String) : (sweep s now).chargesOf key = s.chargesOf key ∨
      isStale now (s.chargesOf key) = true ∧ (sweep s now).chargesOf key = [] := by
  unfold sweep
  split
  · exact .inl rfl
  · unfold State.chargesOf
    dsimp only
    rw [lookup_filter (fun charges => !isStale now charges) key h]
    cases hl : s.charges.lookup key with
    | none => exact .inl rfl
    | some charges =>
      by_cases hstale : isStale now charges = true
      · exact .inr ⟨hstale, by simp [Option.filter, hstale]⟩
      · exact .inl (by simp [Option.filter, hstale])

lemma trims_sweep {s : State} (h : s.WellKept) (now : Seconds) (key : String) :
    Trims now (s.chargesOf key) ((sweep s now).chargesOf key) := by
  rcases chargesOf_sweep h.nodup now key with heq | ⟨hstale, hnil⟩
  · rw [heq]
    exact Trims.refl _
  · rw [hnil]
    exact trims_nil_of_isStale (h.inOrder key) hstale

lemma nodup_sweep {s : State} (h : (Keyed.keys s.charges).Nodup) (now : Seconds) :
    (Keyed.keys (sweep s now).charges).Nodup := by
  unfold sweep
  split
  · exact h
  · exact h.sublist (List.filter_sublist.map _)

lemma nodup_charge {s : State} (h : (Keyed.keys s.charges).Nodup) (key : String) (limit : Int)
    (now : Seconds) : (Keyed.keys (charge s key limit now).2.charges).Nodup := by
  unfold charge
  dsimp only
  split <;> exact Keyed.nodup_keys_put _ _ h

lemma charge_fst (s : State) (key : String) (limit : Int) (now : Seconds) :
    (charge s key limit now).1 = !decide (limit ≤ (recent now (s.chargesOf key)).length) := by
  by_cases h : limit ≤ (recent now (s.chargesOf key)).length <;> simp [charge, h]

/-! ### One request -/

lemma generationKey_ne (client : String) : generationKey client ≠ client := by
  intro h
  have := congrArg String.length h
  simp [generationKey, String.length_append] at this

lemma ne_healthPath_of_isGeneration {path : String} (h : isGeneration path = true) :
    path ≠ healthPath := by
  rintro rfl
  exact absurd h (by decide)

/-- What is decided about a request to a path whose keys bear some numbers of charges. -/
def verdictOf (limits : Limits) (path : String) (generation general : ℕ) : Verdict :=
  if path = healthPath then .admitted
  else if isGeneration path = true ∧ limits.generation ≤ generation then .generationRefused
  else if limits.general ≤ general then .generalRefused
  else .admitted

/-- The charges that a request has brought about when it has been decided about. -/
def Arrival.charges (r : Arrival) (v : Verdict) : List (String × Seconds) :=
  if r.path = healthPath then []
  else
    (if isGeneration r.path = true ∧ v ≠ .generationRefused then
      [(generationKey r.client, r.time)] else []) ++
    (if v = .admitted then [(r.client, r.time)] else [])

/-- The times at which a key has been charged. -/
def chargesTo (key : String) (log : List (String × Seconds)) : List Seconds :=
  (log.filter fun p => p.1 = key).map Prod.snd

@[simp] lemma chargesTo_nil (key : String) : chargesTo key [] = [] := rfl

@[simp] lemma chargesTo_append (key : String) (log log' : List (String × Seconds)) :
    chargesTo key (log ++ log') = chargesTo key log ++ chargesTo key log' := by
  simp [chargesTo]

@[simp] lemma chargesTo_cons (key k : String) (t : Seconds) (log : List (String × Seconds)) :
    chargesTo key ((k, t) :: log) =
      if key = k then t :: chargesTo key log else chargesTo key log := by
  by_cases h : key = k
  · simp [chargesTo, h]
  · simp [chargesTo, h, Ne.symm h]

lemma admitGeneral_fst (limits : Limits) (s : State) (r : Arrival) :
    (admitGeneral limits s r).1 =
      if limits.general ≤ (recent r.time (s.chargesOf r.client)).length then .generalRefused
      else .admitted := by
  by_cases h : limits.general ≤ (recent r.time (s.chargesOf r.client)).length <;>
    simp [admitGeneral, charge_fst, h]

/-- A request is decided about by the charges of its two keys that count. -/
theorem step_fst (limits : Limits) {s : State} (h : s.WellKept) (r : Arrival) :
    (step limits s r).1 = verdictOf limits r.path
      (recent r.time (s.chargesOf (generationKey r.client))).length
      (recent r.time (s.chargesOf r.client)).length := by
  have hrecent (key : String) : recent r.time ((sweep s r.time).chargesOf key) =
      recent r.time (s.chargesOf key) := (trims_sweep h r.time key).recent_eq
  unfold step verdictOf
  by_cases hhealth : r.path = healthPath
  · rw [if_pos hhealth, if_pos hhealth]
  · rw [if_neg hhealth, if_neg hhealth]
    by_cases hgen : isGeneration r.path = true
    · have hne : r.client ≠ generationKey r.client := (generationKey_ne r.client).symm
      by_cases hlimit : limits.generation ≤
          (recent r.time (s.chargesOf (generationKey r.client))).length
      · simp [hgen, charge_fst, hrecent, hlimit]
      · simp [hgen, charge_fst, admitGeneral_fst, chargesOf_charge, hne, hrecent, hlimit]
    · simp [hgen, admitGeneral_fst, hrecent]

lemma chargesOf_charge_self (s : State) (key : String) (limit : Int) (now : Seconds) :
    (charge s key limit now).2.chargesOf key = recent now (s.chargesOf key) ++
      chargesTo key (if (charge s key limit now).1 then [(key, now)] else []) := by
  rw [chargesOf_charge, if_pos rfl]
  split <;> simp

lemma chargesOf_charge_of_ne (s : State) {key k : String} (hk : k ≠ key) (limit : Int)
    (now : Seconds) : (charge s key limit now).2.chargesOf k = s.chargesOf k := by
  rw [chargesOf_charge, if_neg hk]

/-- A trial drops only charges that no longer count, and adds at most one. -/
lemma trims_charge (s : State) (key k : String) (limit : Int) (now : Seconds) :
    ∃ kept, Trims now (s.chargesOf k) kept ∧ (charge s key limit now).2.chargesOf k =
      kept ++ chargesTo k (if (charge s key limit now).1 then [(key, now)] else []) := by
  by_cases hk : k = key
  · subst hk
    exact ⟨_, Trims.recent _ _, chargesOf_charge_self s k limit now⟩
  · refine ⟨_, Trims.refl _, ?_⟩
    rw [chargesOf_charge_of_ne s hk]
    split <;> simp [hk]

lemma admitGeneral_eq_admitted_iff (limits : Limits) (s : State) (r : Arrival) :
    (admitGeneral limits s r).1 = .admitted ↔
      (charge s r.client limits.general r.time).1 = true := by
  simp only [admitGeneral]
  split <;> simp_all

lemma trims_admitGeneral (limits : Limits) (s : State) (r : Arrival) (k : String) :
    ∃ kept, Trims r.time (s.chargesOf k) kept ∧ (admitGeneral limits s r).2.chargesOf k =
      kept ++ chargesTo k
        (if (admitGeneral limits s r).1 = .admitted then [(r.client, r.time)] else []) := by
  simp only [admitGeneral_eq_admitted_iff]
  exact trims_charge s r.client k limits.general r.time

lemma admitGeneral_ne_generationRefused (limits : Limits) (s : State) (r : Arrival) :
    (admitGeneral limits s r).1 ≠ .generationRefused := by
  rw [admitGeneral_fst]
  split <;> simp

lemma chargesOf_admitGeneral_generationKey (limits : Limits) (s : State) (r : Arrival) :
    (admitGeneral limits s r).2.chargesOf (generationKey r.client) =
      s.chargesOf (generationKey r.client) :=
  chargesOf_charge_of_ne _ (generationKey_ne r.client) _ _

/-- If the trial of the generator key is passed, the general one follows it. It has no bearing on
that key, nor the first on any other. -/
lemma trims_admitGeneral_charge (limits : Limits) (s : State) (r : Arrival) (key : String)
    (h : (charge s (generationKey r.client) limits.generation r.time).1 = true) :
    let trial := charge s (generationKey r.client) limits.generation r.time
    ∃ kept, Trims r.time (s.chargesOf key) kept ∧
      (admitGeneral limits trial.2 r).2.chargesOf key =
        kept ++ chargesTo key ([(generationKey r.client, r.time)] ++
          if (admitGeneral limits trial.2 r).1 = .admitted then [(r.client, r.time)] else []) := by
  intro trial
  rw [chargesTo_append]
  by_cases hkey : key = generationKey r.client
  · subst hkey
    refine ⟨_, Trims.recent _ _, ?_⟩
    have hne := generationKey_ne r.client
    rw [chargesOf_admitGeneral_generationKey, chargesOf_charge_self, if_pos h]
    split <;> simp [hne]
  · have hother : trial.2.chargesOf key = s.chargesOf key := chargesOf_charge_of_ne _ hkey _ _
    obtain ⟨kept, htrims, heq⟩ := trims_admitGeneral limits trial.2 r key
    rw [hother] at htrims
    exact ⟨kept, htrims, by simp [heq, hkey]⟩

/-- After a request the table holds what the trials have left of each key's charges, and those that
the request has brought about. -/
theorem chargesOf_step (limits : Limits) {s : State} (h : s.WellKept) (r : Arrival)
    (key : String) : ∃ kept, Trims r.time (s.chargesOf key) kept ∧
      (step limits s r).2.chargesOf key =
        kept ++ chargesTo key (r.charges (step limits s r).1) := by
  have hsweep := trims_sweep h r.time key
  unfold step Arrival.charges
  by_cases hhealth : r.path = healthPath
  · exact ⟨_, Trims.refl _, by simp [hhealth]⟩
  rw [if_neg hhealth, if_neg hhealth]
  dsimp only
  set swept := sweep s r.time
  by_cases hgen : isGeneration r.path = true
  · rw [if_pos hgen]
    by_cases hcharged : (charge swept (generationKey r.client) limits.generation r.time).1 = true
    · obtain ⟨kept, htrims, heq⟩ := trims_admitGeneral_charge limits swept r key hcharged
      refine ⟨kept, hsweep.trans htrims, ?_⟩
      rw [if_pos hcharged, if_pos ⟨hgen, admitGeneral_ne_generationRefused _ _ _⟩]
      exact heq
    · obtain ⟨kept, htrims, heq⟩ :=
        trims_charge swept (generationKey r.client) key limits.generation r.time
      refine ⟨kept, hsweep.trans htrims, ?_⟩
      rw [if_neg hcharged, heq, if_neg hcharged]
      simp
  · obtain ⟨kept, htrims, heq⟩ := trims_admitGeneral limits swept r key
    refine ⟨kept, hsweep.trans htrims, ?_⟩
    rw [if_neg hgen, heq]
    simp [hgen]

lemma mem_of_mem_chargesTo {key : String} {log : List (String × Seconds)} {t : Seconds}
    (h : t ∈ chargesTo key log) : (key, t) ∈ log := by
  simp only [chargesTo, List.mem_map, List.mem_filter, decide_eq_true_eq] at h
  obtain ⟨⟨k, u⟩, ⟨hmem, rfl⟩, rfl⟩ := h
  exact hmem

/-- All charges that a request brings about are made at its time. -/
lemma time_of_mem_charges {r : Arrival} {v : Verdict} {p : String × Seconds}
    (h : p ∈ r.charges v) : p.2 = r.time := by
  unfold Arrival.charges at h
  split at h
  · simp at h
  · rcases List.mem_append.1 h with h | h
    all_goals
      split at h
      · rw [List.mem_singleton.1 h]
      · simp at h

/-- A request keeps the table well kept if it is not earlier than the charges there. -/
theorem State.WellKept.step (limits : Limits) {s : State} (h : s.WellKept) (r : Arrival)
    (hlast : ∀ key, ∀ t ∈ s.chargesOf key, r.time.isBelow t = false) :
    (step limits s r).2.WellKept := by
  constructor
  · have hsweep := nodup_sweep h.nodup r.time
    unfold Limiter.step admitGeneral
    dsimp only
    split
    · exact h.nodup
    · split
      · split
        · exact nodup_charge (nodup_charge hsweep _ _ _) _ _ _
        · exact nodup_charge hsweep _ _ _
      · exact nodup_charge hsweep _ _ _
  · intro key
    obtain ⟨kept, htrims, heq⟩ := chargesOf_step limits h r key
    have htime : ∀ u ∈ chargesTo key (r.charges (Limiter.step limits s r).1), u = r.time :=
      fun u hu => time_of_mem_charges (mem_of_mem_chargesTo hu)
    rw [heq]
    refine List.pairwise_append.2 ⟨(h.inOrder key).sublist htrims.sublist, ?_, ?_⟩
    · apply List.pairwise_of_forall_mem_list
      intro t ht u hu
      rw [htime t ht, htime u hu, Seconds.isBelow_irrefl]
    · intro t ht u hu
      rw [htime u hu]
      exact hlast key t (htrims.sublist.subset ht)

end ControlSurface.Limiter
