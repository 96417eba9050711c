import ControlSurface.Proofs.Limiter.Archive

/-!
# Thrift

Trying one key again and again, the limiter admits as many requests as anyone could who knew all of
them in advance and kept to the limit. What it has admitted so far may not be what the best choice
holds, but it holds at least as many requests, and each of them no later than its counterpart in the
choice. So whenever a request of the choice is refused, the limiter has already admitted one more.
-/

namespace ControlSurface.Limiter

/-! ### Trials of one key -/

/-- Whether a key is charged at each of some times, when it is tried at one after the other. -/
def trials (key : String) (limit : Int) : State → List Seconds → List Bool
  | _, [] => []
  | s, t :: rest => (charge s key limit t).1 :: trials key limit (charge s key limit t).2 rest

/-- Every charge of a key that bears some already, if none is ever dropped. -/
def charged (limit : Int) : List Seconds → List Seconds → List Seconds
  | kept, [] => kept
  | kept, t :: rest =>
    if limit ≤ (recent t kept).length then charged limit kept rest
    else charged limit (kept ++ [t]) rest

variable {key : String} {limit : ℤ} {s : State} {t : Seconds}
  {kept chosen more times : List Seconds}

lemma take_trials (s : State) (times : List Seconds) (n : ℕ) :
    (trials key limit s times).take n = trials key limit s (times.take n) := by
  induction times generalizing s n with
  | nil => simp [trials]
  | cons t rest ih =>
    cases n with
    | zero => rfl
    | succ n => simp [trials, ih]

/-- After a trial the key still bears what will count later, if it did before. -/
lemma recent_chargesOf_charge {u : Seconds} (htu : t.Precedes u)
    (ht : recent t (s.chargesOf key) = recent t kept) :
    recent u ((charge s key limit t).2.chargesOf key) =
      recent u (kept ++ if (charge s key limit t).1 then [t] else []) := by
  have hforgotten : recent u (recent t kept) = recent u kept :=
    (Trims.recent t kept).filter_eq (counts u) fun _ _ h => counts_of_precedes htu h
  rw [chargesOf_charge, if_pos rfl, ht, recent_append, recent_append, hforgotten]

/-- As many trials are passed as there are charges, although the limiter forgets some of them. -/
lemma length_add_count_trials (hclock : times.Pairwise Seconds.Precedes)
    (h : ∀ t ∈ times, recent t (s.chargesOf key) = recent t kept) :
    kept.length + (trials key limit s times).count true = (charged limit kept times).length := by
  induction times generalizing s kept with
  | nil => simp [trials, charged]
  | cons t rest ih =>
    obtain ⟨hnow, hrest⟩ := List.pairwise_cons.1 hclock
    have ht := h t List.mem_cons_self
    have hnext : ∀ u ∈ rest, recent u ((charge s key limit t).2.chargesOf key) =
        recent u (kept ++ if (charge s key limit t).1 then [t] else []) :=
      fun u hu => recent_chargesOf_charge (hnow u hu) ht
    have hfst : (charge s key limit t).1 = !decide (limit ≤ (recent t kept).length) := by
      rw [charge_fst, ht]
    have hlength := ih hrest hnext
    rw [trials, charged, List.count_cons]
    by_cases hlimit : limit ≤ (recent t kept).length
    · simpa [hfst, hlimit] using hlength
    · rw [if_neg hlimit]
      simp only [hfst, hlimit, decide_false, Bool.not_false, if_true, beq_self_eq_true,
        List.length_append, List.length_singleton] at hlength ⊢
      omega

/-! ### Being ahead of a choice -/

/-- Whether there are at least as many charges as choices, each as early as its counterpart. -/
def Ahead (kept chosen : List Seconds) : Prop :=
  ∃ front, front <+: kept ∧ List.Forall₂ Seconds.Precedes front chosen

namespace Ahead

lemma length_le (h : Ahead kept chosen) : chosen.length ≤ kept.length := by
  obtain ⟨front, hinit, hprecedes⟩ := h
  exact hprecedes.length_eq ▸ hinit.length_le

lemma charge (h : Ahead kept chosen) (t : Seconds) : Ahead (kept ++ [t]) chosen := by
  obtain ⟨front, hinit, hprecedes⟩ := h
  exact ⟨front, hinit.trans (List.prefix_append _ _), hprecedes⟩

/-- If there are more charges than choices, a choice may be made that is not before any of them. -/
lemma choose (h : Ahead kept chosen) (hlength : chosen.length < kept.length)
    (ht : ∀ u ∈ kept, u.Precedes t) : Ahead kept (chosen ++ [t]) := by
  obtain ⟨front, ⟨back, rfl⟩, hprecedes⟩ := h
  cases back with
  | nil => simp [hprecedes.length_eq] at hlength
  | cons u back =>
    have hut : u.Precedes t := ht u (by simp)
    exact ⟨front ++ [u], ⟨back, by simp⟩,
      List.rel_append hprecedes (List.Forall₂.cons hut List.Forall₂.nil)⟩

lemma choose_charge (h : Ahead kept chosen) (ht : ∀ u ∈ kept ++ [t], u.Precedes t) :
    Ahead (kept ++ [t]) (chosen ++ [t]) := by
  refine (h.charge t).choose ?_ ht
  have := h.length_le
  simp only [List.length_append, List.length_singleton]
  omega

end Ahead

/-- Later readings are more likely to count. -/
lemma length_recent_le {front : List Seconds} (h : List.Forall₂ Seconds.Precedes front chosen)
    (now : Seconds) : (recent now front).length ≤ (recent now chosen).length := by
  induction h with
  | nil => exact le_rfl
  | @cons t u front chosen htu _ ih =>
    have hcounts : counts now t = true → counts now u = true := htu.isBelow_of_isBelow
    rw [recent_eq_filter, recent_eq_filter] at ih ⊢
    rw [List.filter_cons, List.filter_cons]
    by_cases ht : counts now t = true
    · rw [if_pos ht, if_pos (hcounts ht)]
      exact Nat.succ_le_succ ih
    · rw [if_neg ht]
      split
      · exact ih.trans (Nat.le_succ _)
      · exact ih

/-- If a choice is refused, there are more charges than choices before it. -/
lemma Ahead.length_lt (h : Ahead kept chosen) (hchosen : ((recent t chosen).length : ℤ) < limit)
    (hrefused : limit ≤ (recent t kept).length) : chosen.length < kept.length := by
  apply lt_of_le_of_ne h.length_le
  intro hlength
  obtain ⟨front, hinit, hprecedes⟩ := h
  obtain rfl : front = kept := hinit.eq_of_length (hprecedes.length_eq.trans hlength)
  have := length_recent_le hprecedes t
  omega

/-- Whether each choice finds fewer choices than the limit among those that count at its time. -/
def Fits (limit : Int) (chosen : List Seconds) : Prop :=
  ∀ front t, front ++ [t] <+: chosen → ((recent t front).length : ℤ) < limit

/-- Choices that fit are never more than the charges, if the charges are ahead of those made so
far. -/
lemma Ahead.length_le_charged (h : Ahead kept chosen) (hclock : (kept ++ times).Pairwise
    Seconds.Precedes) (hself : ∀ t ∈ times, t.Precedes t) (hmore : more.Sublist times)
    (hfits : Fits limit (chosen ++ more)) :
    (chosen ++ more).length ≤ (charged limit kept times).length := by
  induction times generalizing kept chosen more with
  | nil =>
    rw [List.sublist_nil.1 hmore, List.append_nil]
    exact h.length_le
  | cons t rest ih =>
    have hskip : (kept ++ rest).Pairwise Seconds.Precedes :=
      hclock.sublist ((List.sublist_cons_self t rest).append_left kept)
    have hcharge : (kept ++ [t] ++ rest).Pairwise Seconds.Precedes := by simpa using hclock
    have hrest : ∀ u ∈ rest, u.Precedes u := fun u hu => hself u (List.mem_cons_of_mem t hu)
    have hkept : ∀ u ∈ kept, u.Precedes t := fun u hu =>
      (List.pairwise_append.1 hclock).2.2 u hu t List.mem_cons_self
    have hboth : ∀ u ∈ kept ++ [t], u.Precedes t := by
      rintro u hu
      rcases List.mem_append.1 hu with hu | hu
      · exact hkept u hu
      · exact List.mem_singleton.1 hu ▸ hself t List.mem_cons_self
    rw [charged]
    cases hmore with
    | cons _ hmore =>
      split
      · exact ih h hskip hrest hmore hfits
      · exact ih (h.charge t) hcharge hrest hmore hfits
    | @cons_cons more _ _ hmore =>
      have hchosen : ((recent t chosen).length : ℤ) < limit := hfits chosen t ⟨more, by simp⟩
      rw [List.append_cons] at hfits ⊢
      split
      · next hlimit =>
        exact ih (h.choose (h.length_lt hchosen hlimit) hkept) hskip hrest hmore hfits
      · exact ih (h.choose_charge hboth) hcharge hrest hmore hfits

/-! ### The charges are a choice themselves -/

lemma charged_sublist (limit : ℤ) (kept times : List Seconds) :
    (charged limit kept times).Sublist (kept ++ times) := by
  induction times generalizing kept with
  | nil => simp [charged]
  | cons t rest ih =>
    rw [charged]
    split
    · exact (ih kept).trans ((List.sublist_cons_self t rest).append_left kept)
    · simpa using ih (kept ++ [t])

lemma Fits.mono {limit' : ℤ} (h : Fits limit chosen) (hle : limit ≤ limit') :
    Fits limit' chosen := fun front t hinit => (h front t hinit).trans_le hle

lemma fits_nil (limit : ℤ) : Fits limit [] := fun front t h => by
  simpa using h.length_le

lemma Fits.append_singleton (h : Fits limit chosen)
    (ht : ((recent t chosen).length : ℤ) < limit) : Fits limit (chosen ++ [t]) := by
  intro front u hinit
  rcases List.prefix_concat_iff.1 hinit with heq | hinit
  · obtain ⟨rfl, hu⟩ := List.append_inj' heq rfl
    obtain rfl : u = t := List.singleton_inj.1 hu
    exact ht
  · exact h front u hinit

lemma Fits.charged (h : Fits limit kept) (times : List Seconds) :
    Fits limit (charged limit kept times) := by
  induction times generalizing kept with
  | nil => exact h
  | cons t rest ih =>
    rw [Limiter.charged]
    split
    · exact ih h
    · next hlimit => exact ih (h.append_singleton (not_le.1 hlimit))

/-! ### Minutes -/

open scoped Classical in
/-- Whether no minute holds more of some readings than a limit, wherever it begins. -/
def IsSparse (limit : Int) (chosen : List Seconds) : Prop :=
  ∀ T : ℝ, ((chosen.countP (InMinute T ·) : ℕ) : ℤ) ≤ limit

lemma IsNumber.precedes_self (h : IsNumber t) : t.Precedes t := by
  obtain ⟨x, hx⟩ := h
  cases t with
  | whole n => exact le_refl n
  | double y => exact ⟨_, _, hx, hx, le_rfl⟩

/-- What counts at a number lies in the minute that ends with it. -/
lemma inMinute_of_counts {x : ℚ} {u : Seconds} (hx : t.position? = some (0, x))
    (hut : u.Precedes t) (hu : IsProper u) (hcounts : counts t u = true) :
    InMinute (x : ℝ) u := by
  have hwithin : isWithinMinute t u = true := isWithinMinute_of_counts hut hu hcounts
  obtain ⟨x', y, hx', hy, hlt⟩ := (isWithinMinute_iff t u).1 hwithin
  obtain ⟨p, q, hp, hq, hpq⟩ := hut.position
  obtain rfl : x = x' := by simpa using hx.symm.trans hx'
  obtain rfl : (0, y) = p := Option.some_inj.1 (hy.symm.trans hp)
  obtain rfl : (0, x) = q := Option.some_inj.1 (hx.symm.trans hq)
  have hyx : y ≤ x := by simpa [Prod.Lex.toLex_le_toLex] using hpq
  exact ⟨y, hy, by exact_mod_cast hlt, by exact_mod_cast hyx⟩

open scoped Classical in
/-- Sparse choices fit: those that count at the time of one of them lie in its minute. -/
lemma IsSparse.fits (h : IsSparse limit chosen) (hclock : chosen.Pairwise Seconds.Precedes)
    (hclean : ∀ t ∈ chosen, IsProper t ∧ IsNumber t) : Fits limit chosen := by
  intro front t hinit
  have hmem : ∀ u ∈ front ++ [t], u ∈ chosen := fun u hu => hinit.subset hu
  have hfront : ∀ u ∈ front, u.Precedes t := fun u hu =>
    (List.pairwise_append.1 (hclock.sublist hinit.sublist)).2.2 u hu t (List.mem_singleton_self t)
  obtain ⟨x, hx⟩ := (hclean t (hmem t (by simp))).2
  have hself : InMinute (x : ℝ) t := ⟨x, hx, by linarith, le_rfl⟩
  have hrecent : (recent t front).length ≤ front.countP (InMinute (x : ℝ) ·) := by
    rw [recent_eq_filter, ← List.countP_eq_length_filter]
    apply List.countP_mono_left
    intro u hu hcounts
    exact decide_eq_true (inMinute_of_counts hx (hfront u hu)
      (hclean u (hmem u (List.mem_append_left _ hu))).1 hcounts)
  have hcount : front.countP (InMinute (x : ℝ) ·) + 1 ≤ chosen.countP (InMinute (x : ℝ) ·) := by
    refine le_trans (le_of_eq ?_) (hinit.sublist.countP_le)
    simp [List.countP_append, hself]
  have hsparse := h x
  omega

/-! ### Optimality -/

/-- When a key that bears no charges is tried again and again, then up to any trial as many have
been passed as there are readings in any choice that keeps to the limit in every minute, and no
fewer than with a lower limit. -/
theorem trials_optimal (key : String) (limit : Int) {s : State} {times : List Seconds}
    (hstart : s.chargesOf key = []) (hclock : times.Pairwise Seconds.Precedes)
    (hclean : ∀ t ∈ times, IsProper t ∧ IsNumber t) (n : ℕ) :
    (∀ chosen : List Seconds, chosen.Sublist (times.take n) → IsSparse limit chosen →
      chosen.length ≤ ((trials key limit s times).take n).count true) ∧
    ∀ higher : Int, limit ≤ higher → ((trials key limit s times).take n).count true ≤
      ((trials key higher s times).take n).count true := by
  have hclock : (times.take n).Pairwise Seconds.Precedes :=
    hclock.sublist (List.take_sublist n times)
  have hclean : ∀ t ∈ times.take n, IsProper t ∧ IsNumber t :=
    fun t ht => hclean t (List.mem_of_mem_take ht)
  have hcount (limit : ℤ) : ((trials key limit s times).take n).count true =
      (charged limit [] (times.take n)).length := by
    rw [take_trials, ← length_add_count_trials hclock fun t _ => by rw [hstart], List.length_nil,
      Nat.zero_add]
  -- No choice outdoes the charges, since nothing has been chosen before the first trial.
  have hbest (limit : ℤ) (chosen : List Seconds) (hsub : chosen.Sublist (times.take n))
      (hfits : Fits limit chosen) : chosen.length ≤ (charged limit [] (times.take n)).length :=
    Ahead.length_le_charged ⟨[], List.prefix_rfl, .nil⟩ hclock
      (fun t ht => (hclean t ht).2.precedes_self) hsub hfits
  refine ⟨fun chosen hsub hsparse => ?_, fun higher hle => ?_⟩
  · rw [hcount]
    exact hbest limit chosen hsub (hsparse.fits (hclock.sublist hsub)
      fun t ht => hclean t (hsub.subset ht))
  · rw [hcount, hcount]
    exact hbest higher _ (charged_sublist limit [] _)
      (((fits_nil limit).charged _).mono hle)

/-- Of four trials at 0, 30, 60 and 60 seconds with a limit of one, the first and the third are
passed: a minute does not hold its beginning. -/
theorem trials_optimal_minute :
    let zero : Seconds := .double (.finite false 0 0)
    let half : Seconds := .double (.finite false 30 0)
    let minute : Seconds := .double (.finite false 60 0)
    let times := [zero, half, minute, minute]
    let s := State.start zero
    s.chargesOf "a" = [] ∧ times.Pairwise Seconds.Precedes ∧
      (∀ t ∈ times, IsProper t ∧ IsNumber t) ∧
      [zero, minute].Sublist (times.take 3) ∧ IsSparse 1 [zero, minute] ∧
      [zero, minute].length ≤ ((trials "a" 1 s times).take 3).count true ∧
      ((trials "a" 1 s times).take 3).count true ≤ ((trials "a" 2 s times).take 3).count true ∧
      trials "a" 1 s times = [true, false, true, false] := by
  intro zero half minute times s
  have hclock : times.Pairwise Seconds.Precedes := by
    simp only [times, List.pairwise_cons, List.mem_cons, List.not_mem_nil, or_false,
      forall_eq_or_imp, forall_eq]
    refine ⟨⟨?_, ?_, ?_⟩, ⟨?_, ?_⟩, ?_, by simp⟩ <;> exact precedes_double (by norm_num)
  have hclean : ∀ t ∈ times, IsProper t ∧ IsNumber t := by
    intro t ht
    simp only [times, List.mem_cons, List.not_mem_nil, or_false] at ht
    rcases ht with rfl | rfl | rfl | rfl <;>
      exact ⟨⟨by norm_num, by decide, by decide⟩, _, position?_double _ _⟩
  have hsub : [zero, minute].Sublist (times.take 3) := .cons_cons _ (.cons _ (List.Sublist.refl _))
  have hsparse : IsSparse 1 [zero, minute] := by
    intro T
    have hboth : ¬ (InMinute T zero ∧ InMinute T minute) := by
      rintro ⟨⟨x, hx, hTx, -⟩, y, hy, -, hyT⟩
      obtain rfl : 0 = x := by simpa [zero, position?_double] using hx
      obtain rfl : 60 = y := by simpa [minute, position?_double] using hy
      norm_num at hTx hyT
      linarith
    by_cases hzero : InMinute T zero
    · have hminute : ¬ InMinute T minute := fun h => hboth ⟨hzero, h⟩
      simp [hzero, hminute]
    · simp only [List.countP_cons, hzero, List.countP_nil]
      split <;> simp
  obtain ⟨hbest, hhigher⟩ := trials_optimal "a" 1 (s := s) rfl hclock hclean 3
  exact ⟨rfl, hclock, hclean, hsub, hsparse, hbest _ hsub hsparse, hhigher 2 (by decide),
    by decide +kernel⟩

end ControlSurface.Limiter
