import ControlSurface.Proofs.Limiter.Ledger
import ControlSurface.Proofs.Limiter.Minute

/-!
# How long keys are kept

A cleanup leaves only keys that have been charged within the last minute, and the next one is due
five minutes later. So no key stays in the table for six minutes after its last charge, as long as
requests keep coming in, and there are never more keys than there have been charges in this time.
Between cleanups a key is tried only if it is charged as well, or bears charges that count.

Where rounding moves the beginning of a minute down to a charge before it, a cleanup keeps a key too
long.
-/

namespace ControlSurface.Limiter

/-! ### Spans of time -/

/-- Whether a reading lies less than a number of seconds before another one, or after it. -/
def IsWithin (span : ℚ) (now t : Seconds) : Prop :=
  ∃ x y : ℚ, now.position? = some (0, x) ∧ t.position? = some (0, y) ∧ x - span < y

/-- Whether rounding does not move the beginning of the minute that ends at a reading down to an
earlier one that lies before it. -/
def IsTight (t now : Seconds) : Prop :=
  ∀ x y : ℚ, now.position? = some (0, x) → t.position? = some (0, y) → y < x - 60 →
    t.isBelow (now.minus window) = true

lemma isTight_whole (m n : ℤ) : IsTight (.whole m) (.whole n) := by
  intro x y hx hy hlt
  obtain rfl : (n : ℚ) = x := by simpa [Seconds.position?] using hx
  obtain rfl : (m : ℚ) = y := by simpa [Seconds.position?] using hy
  have hint : m < n - 60 := by exact_mod_cast hlt
  simpa [window] using hint

lemma isTight_double {m n : ℕ} {e f : ℤ} (hn : n < 2 ^ 53) (hleast : Binary64.leastExponent ≤ f)
    (hf : f ≤ 2) : IsTight (.double (.finite false m e)) (.double (.finite false n f)) := by
  intro x y hx hy hlt
  rw [position?_double, Option.some_inj, Prod.mk.injEq] at hx hy
  obtain ⟨-, rfl⟩ := hx
  obtain ⟨-, rfl⟩ := hy
  have hnonneg : (0 : ℚ) ≤ m * 2 ^ e := by positivity
  have hlate : (60 : ℚ) ≤ n * 2 ^ f := by linarith
  have hrange : (n : ℚ) * 2 ^ f - 60 < Binary64.outOfRange :=
    (sub_lt_self _ (by norm_num)).trans (Binary64.mul_zpow_lt_outOfRange hn (hf.trans (by decide)))
  have hbeginning := position?_minus_window false n f
  rw [Binary64.signum, if_neg Bool.false_ne_true, one_mul, rounded_sub_sixty hn hleast hf hlate]
    at hbeginning
  have hplace := Binary64.place_of_lt_outOfRange false (sub_nonneg.2 hlate) hrange
  rw [Binary64.signum, if_neg Bool.false_ne_true, one_mul] at hplace
  rw [hplace] at hbeginning
  exact (Seconds.isBelow_iff _ _).2 ⟨_, _, position?_double m e, hbeginning,
    Prod.Lex.toLex_lt_toLex.2 (.inr ⟨rfl, hlt⟩)⟩

/-- Ordinary readings of one clock are tight. -/
theorem isTight_of_isOrdinary {t now : Seconds} (h : t.Precedes now) (ht : IsOrdinary t)
    (hnow : IsOrdinary now) : IsTight t now := by
  cases t with
  | whole m =>
    cases now with
    | whole n => exact isTight_whole m n
    | double y => exact h.elim
  | double x =>
    cases now with
    | whole n => exact h.elim
    | double y =>
      obtain ⟨m, e, rfl, -⟩ := ht.exists_finite
      obtain ⟨n, f, rfl, hn, hleast, hf⟩ := hnow.exists_finite
      exact isTight_double hn hleast hf

/-- So an ordinary clock is tight throughout a run. -/
theorem pairwise_isTight {times : List Seconds} (hclock : times.Pairwise Seconds.Precedes)
    (h : ∀ t ∈ times, IsOrdinary t) : times.Pairwise IsTight :=
  hclock.imp_of_mem fun ht hnow hlt => isTight_of_isOrdinary hlt (h _ ht) (h _ hnow)

lemma IsNumber.exists_finite {x : Binary64} (h : IsNumber (.double x)) :
    ∃ s m e, x = .finite s m e := by
  obtain ⟨q, hq⟩ := h
  cases x with
  | nan => simp [Seconds.position?, Binary64.position?] at hq
  | infinite s => cases s <;> simp [Seconds.position?, Binary64.position?_infinite] at hq
  | finite s m e => exact ⟨s, m, e, rfl⟩

lemma place_rounded_cleanupPeriod : Binary64.place (Binary64.rounded 300) = (0, 300) := by
  have hfit : (300 : ℕ) < 2 ^ 53 := by norm_num
  have hrounded := Binary64.rounded_eq false hfit (e := 0) (by decide)
  have hrange := Binary64.mul_zpow_lt_outOfRange hfit (e := 0) (by decide)
  have hplace := Binary64.place_of_lt_outOfRange false (by positivity) hrange
  simp only [Binary64.signum, Bool.false_eq_true, if_false, one_mul, zpow_zero, mul_one,
    Nat.cast_ofNat] at hrounded hplace
  rw [hrounded, hplace]

lemma sub_lt_of_isBelow_double {s s' : Bool} {m n : ℕ} {e f : ℤ}
    (h : ((Seconds.double (.finite s n f)).minus (.double (.finite s' m e))).isBelow
      cleanupPeriod = true) :
    Binary64.signum s * n * 2 ^ f - Binary64.signum s' * m * 2 ^ e < 300 := by
  obtain ⟨p, q, hp, hq, hlt⟩ := (Seconds.isBelow_iff _ _).1 h
  obtain rfl : _ = p :=
    Option.some_inj.1 ((Binary64.position?_sub_finite s s' n m f e).symm.trans hp)
  obtain rfl : (0, 300) = q := by simpa [cleanupPeriod, Seconds.position?] using hq
  by_contra hge
  have hmono := Binary64.place_mono (Binary64.rounded_mono (not_lt.1 hge))
  rw [place_rounded_cleanupPeriod] at hmono
  exact absurd hlt (not_lt.2 hmono)

/-- If the time between two readings is found to be below five minutes, it is, since a longer one
would not have been rounded below them. -/
lemma isWithin_of_isBelow {t u : Seconds} (hut : u.Precedes t) (ht : IsNumber t)
    (h : (t.minus u).isBelow cleanupPeriod = true) : IsWithin 300 t u := by
  cases t with
  | whole n =>
    cases u with
    | whole m =>
      have hint : n - m < 300 := by simpa [cleanupPeriod] using h
      have hlt : (n : ℚ) - m < 300 := by exact_mod_cast hint
      exact ⟨n, m, rfl, rfl, by linarith⟩
    | double v => exact hut.elim
  | double w =>
    cases u with
    | whole m => exact hut.elim
    | double v =>
      obtain ⟨s, n, f, rfl⟩ := ht.exists_finite
      cases v with
      | nan =>
        obtain ⟨p, -, hp, -⟩ := hut
        cases hp
      | infinite s' =>
        -- No number follows a positive one, and an infinite time has passed since a negative one.
        cases s'
        · obtain ⟨p, q, hp, hq, hle⟩ := hut
          rw [Binary64.position?_infinite, Option.some_inj] at hp
          rw [Binary64.position?_finite, Option.some_inj] at hq
          subst hp hq
          simp [Prod.Lex.toLex_le_toLex] at hle
        · have hminus : (Seconds.double (.finite s n f)).minus (.double (.infinite true)) =
              .double (.infinite false) := rfl
          rw [hminus] at h
          exact absurd h (by decide)
      | finite s' m e =>
        have hlt := sub_lt_of_isBelow_double h
        exact ⟨_, _, Binary64.position?_finite s n f, Binary64.position?_finite s' m e, by linarith⟩

/-! ### Live keys -/

/-- Whether a key has a place in the table: it bears charges, in order and not more than any limit
allows. The last of them is the last one that the key has ever borne, and the last cleanup either
came before it or left it. -/
structure IsLive (R : Seconds → Seconds → Prop) (bound : Int) (cleanup : Seconds)
    (log : List (String × Seconds)) (key : String) (charges : List Seconds) : Prop where
  inOrder : charges.Pairwise Seconds.Precedes
  length_le : (charges.length : ℤ) ≤ bound
  last : ∃ last, charges.getLast? = some last ∧ (chargesTo key log).getLast? = some last ∧
    (cleanup.Precedes last ∨ R last cleanup ∧ last.isBelow (cleanup.minus window) = false)

/-- Whether all keys of a table have a place in it. -/
def State.AllLive (R : Seconds → Seconds → Prop) (bound : Int) (s : State)
    (log : List (String × Seconds)) : Prop :=
  ∀ key charges, s.charges.lookup key = some charges →
    IsLive R bound s.lastCleanup log key charges

variable {R : Seconds → Seconds → Prop} {bound : ℤ} {s : State} {cleanup : Seconds}
  {log : List (String × Seconds)} {key : String} {charges : List Seconds}

lemma State.lookup_of_mem_chargesOf {t : Seconds} (h : t ∈ s.chargesOf key) :
    s.charges.lookup key = some (s.chargesOf key) := by
  unfold State.chargesOf at h ⊢
  cases hl : s.charges.lookup key with
  | none => simp [hl] at h
  | some charges => rfl

lemma IsLive.of_other {key' : String} {t : Seconds} (hne : key ≠ key')
    (h : IsLive R bound cleanup log key charges) (passed : Bool) :
    IsLive R bound cleanup (log ++ if passed then [(key', t)] else []) key charges := by
  refine ⟨h.inOrder, h.length_le, ?_⟩
  have hlog : chargesTo key (log ++ if passed then [(key', t)] else []) = chargesTo key log := by
    cases passed <;> simp [hne]
  rw [hlog]
  exact h.last

/-- If anything still counts, the last charge does. -/
lemma getLast?_recent {now : Seconds} {last : Seconds} (hord : charges.Pairwise Seconds.Precedes)
    (hlast : charges.getLast? = some last) (h : recent now charges ≠ []) :
    (recent now charges).getLast? = some last := by
  obtain ⟨front, rfl⟩ := List.getLast?_eq_some_iff.1 hlast
  have hcounts : counts now last = true := by
    obtain ⟨t, ht⟩ := List.exists_mem_of_ne_nil _ h
    obtain ⟨hmem, ht⟩ := mem_recent.1 ht
    rcases List.mem_append.1 hmem with hfront | hlast
    · have hle : t.Precedes last :=
        (List.pairwise_append.1 hord).2.2 t hfront last (List.mem_singleton_self last)
      exact hle.isBelow_of_isBelow ht
    · exact List.mem_singleton.1 hlast ▸ ht
  rw [recent_append, recent_eq_filter now [last], List.filter_cons_of_pos hcounts]
  simp

/-- A key that is refused bears charges that count, since no limit is below one. -/
lemma IsLive.refused {limit : ℤ} {now : Seconds} (h : IsLive R bound cleanup log key charges)
    (hlimit : 1 ≤ limit) (hrefused : limit ≤ (recent now charges).length) :
    IsLive R bound cleanup log key (recent now charges) := by
  have hne : recent now charges ≠ [] := by
    rintro hnil
    rw [hnil, List.length_nil] at hrefused
    omega
  obtain ⟨last, hlast, hlog⟩ := h.last
  have hkept := getLast?_recent h.inOrder hlast hne
  refine ⟨h.inOrder.sublist List.filter_sublist, ?_, last, hkept, hlog⟩
  have hlength : (recent now charges).length ≤ charges.length := List.length_filter_le _ _
  have := h.length_le
  omega

lemma State.AllLive.inOrder_concat {now : Seconds} (h : s.AllLive R bound log)
    (hpast : ∀ t ∈ s.chargesOf key, t.Precedes now) :
    (recent now (s.chargesOf key) ++ [now]).Pairwise Seconds.Precedes := by
  refine List.pairwise_append.2 ⟨?_, List.pairwise_singleton _ _, fun t ht u hu => ?_⟩
  · cases hcharges : s.chargesOf key with
    | nil => exact List.Pairwise.nil
    | cons t rest =>
      have hmem : t ∈ s.chargesOf key := hcharges ▸ List.mem_cons_self
      rw [← hcharges]
      exact (h key _ (lookup_of_mem_chargesOf hmem)).inOrder.sublist List.filter_sublist
  · exact List.mem_singleton.1 hu ▸ hpast t (mem_recent.1 ht).1

/-- A trial keeps all keys live. -/
lemma State.AllLive.charge {limit : ℤ} {now : Seconds} (h : s.AllLive R bound log)
    (hlimit : 1 ≤ limit) (hbound : limit ≤ bound) (hcleanup : s.lastCleanup.Precedes now)
    (hpast : ∀ t ∈ s.chargesOf key, t.Precedes now) :
    (charge s key limit now).2.AllLive R bound
      (log ++ if (charge s key limit now).1 then [(key, now)] else []) := by
  intro k charges hk
  unfold Limiter.charge at hk ⊢
  dsimp only at hk ⊢
  by_cases hrefused : limit ≤ (recent now (s.chargesOf key)).length
  · simp only [if_pos hrefused, Keyed.lookup_put] at hk ⊢
    split at hk
    · next heq =>
      obtain rfl := Option.some_inj.1 hk
      obtain ⟨t, ht⟩ : ∃ t, t ∈ recent now (s.chargesOf key) :=
        List.exists_mem_of_length_pos (by omega)
      have hlive := h key _ (lookup_of_mem_chargesOf (mem_recent.1 ht).1)
      simpa [heq] using hlive.refused hlimit hrefused
    · simpa using h k charges hk
  · simp only [if_neg hrefused, Keyed.lookup_put] at hk ⊢
    split at hk
    · next heq =>
      obtain rfl := Option.some_inj.1 hk
      refine ⟨?_, ?_, now, by simp, by simp [heq], .inl hcleanup⟩
      · exact h.inOrder_concat hpast
      · simp only [List.length_append, List.length_singleton]
        omega
    · next hne => exact (h k charges hk).of_other hne true

lemma State.AllLive.admitGeneral {limits : Limits} {r : Arrival} (h : s.AllLive R bound log)
    (hgeneral : 1 ≤ limits.general) (hbound : limits.general ≤ bound)
    (hcleanup : s.lastCleanup.Precedes r.time)
    (hpast : ∀ t ∈ s.chargesOf r.client, t.Precedes r.time) :
    (admitGeneral limits s r).2.AllLive R bound
      (log ++ if (admitGeneral limits s r).1 = .admitted then [(r.client, r.time)] else []) := by
  simp only [admitGeneral_eq_admitted_iff]
  exact h.charge hgeneral hbound hcleanup hpast

lemma mem_of_getLast?_chargesTo {last : Seconds} (h : (chargesTo key log).getLast? = some last) :
    (key, last) ∈ log :=
  mem_of_mem_chargesTo (List.mem_of_getLast? h)

/-- A cleanup leaves live keys. -/
lemma State.AllLive.sweep {now : Seconds} (h : s.AllLive R bound log)
    (hnodup : (Keyed.keys s.charges).Nodup) (hnow : ∀ p ∈ log, R p.2 now) :
    (sweep s now).AllLive R bound log := by
  unfold Limiter.sweep
  split
  · exact h
  · intro key charges hkey
    dsimp only at hkey ⊢
    rw [lookup_filter (fun charges => !isStale now charges) key hnodup, Option.filter_eq_some_iff]
      at hkey
    obtain ⟨hlookup, hfresh⟩ := hkey
    have hlive := h key charges hlookup
    obtain ⟨last, hlast, hlog, -⟩ := hlive.last
    have hkept : last.isBelow (now.minus window) = false := by
      simpa [isStale, hlast] using hfresh
    exact ⟨hlive.inOrder, hlive.length_le, last, hlast, hlog,
      .inr ⟨hnow _ (mem_of_getLast?_chargesTo hlog), hkept⟩⟩

/-! ### Requests -/

lemma lastCleanup_sweep (s : State) (now : Seconds) : (sweep s now).lastCleanup = now ∨
    (sweep s now).lastCleanup = s.lastCleanup ∧
      (now.minus s.lastCleanup).isBelow cleanupPeriod = true := by
  unfold sweep
  split
  · next h => exact .inr ⟨rfl, h⟩
  · exact .inl rfl

@[simp] lemma lastCleanup_charge (s : State) (key : String) (limit : ℤ) (now : Seconds) :
    (charge s key limit now).2.lastCleanup = s.lastCleanup := by
  unfold charge
  dsimp only
  split <;> rfl

/-- Only a cleanup changes the time of the last one. -/
lemma lastCleanup_step (limits : Limits) (s : State) {r : Arrival} (hpath : r.path ≠ healthPath) :
    (step limits s r).2.lastCleanup = (sweep s r.time).lastCleanup := by
  unfold step admitGeneral
  rw [if_neg hpath]
  dsimp only
  split_ifs <;> simp

lemma window_counts_of_precedes (hR : ∀ {t u}, R t u → t.Precedes u) : Window R counts where
  ordered h := (hR h).not_isBelow
  now _ h := h
  later _ hrr h := counts_of_precedes (hR hrr) h

/-- What a run keeps up: the table follows the log, all its keys are live, and the last cleanup is
not later than any reading to come. -/
structure State.IsTidy (R : Seconds → Seconds → Prop) (bound : Int) (s : State)
    (log : List (String × Seconds)) (future : List Seconds) : Prop where
  follows : Follows R counts s log future
  live : s.AllLive R bound log
  cleanup : ∀ u ∈ future, s.lastCleanup.Precedes u

namespace State.IsTidy

variable {limits : Limits} {r : Arrival} {future : List Seconds}

lemma start {now : Seconds} (h : ∀ u ∈ future, now.Precedes u) :
    (State.start now).IsTidy R bound [] future where
  follows := Follows.start now
  live _ _ hkey := by simp [State.start] at hkey
  cleanup := h

lemma allLive_step (hR : ∀ {t u}, R t u → t.Precedes u)
    (h : s.IsTidy R bound log (r.time :: future)) (hgeneral : 1 ≤ limits.general)
    (hgeneration : 1 ≤ limits.generation)
    (hbound : max limits.general limits.generation ≤ bound) :
    (step limits s r).2.AllLive R bound (log ++ r.charges (step limits s r).1) := by
  by_cases hpath : r.path = healthPath
  · simpa [step, Arrival.charges, hpath] using h.live
  have hcleanup := h.cleanup r.time List.mem_cons_self
  have hswept : (sweep s r.time).AllLive R bound log :=
    h.live.sweep h.follows.wellKept.nodup fun p hp => h.follows.past p hp _ List.mem_cons_self
  have hlast : (sweep s r.time).lastCleanup.Precedes r.time := by
    rcases lastCleanup_sweep s r.time with heq | ⟨heq, -⟩ <;> rw [heq]
    · exact hcleanup.self
    · exact hcleanup
  have hpast (key : String) : ∀ t ∈ (sweep s r.time).chargesOf key, t.Precedes r.time :=
    fun t ht => hR (h.follows.rel_of_mem
      ((trims_sweep h.follows.wellKept r.time key).sublist.subset ht) List.mem_cons_self)
  obtain ⟨hle, hle'⟩ := max_le_iff.1 hbound
  unfold step Arrival.charges
  rw [if_neg hpath, if_neg hpath]
  dsimp only
  set swept := sweep s r.time
  by_cases hgen : isGeneration r.path = true
  · rw [if_pos hgen]
    have htrial := hswept.charge hgeneration hle' hlast (hpast (generationKey r.client))
    by_cases hcharged : (charge swept (generationKey r.client) limits.generation r.time).1 = true
    · rw [if_pos hcharged] at htrial
      rw [if_pos hcharged, if_pos ⟨hgen, admitGeneral_ne_generationRefused _ _ _⟩,
        ← List.append_assoc]
      apply htrial.admitGeneral hgeneral hle
      · rwa [lastCleanup_charge]
      · rw [chargesOf_charge_of_ne _ (generationKey_ne r.client).symm]
        exact hpast r.client
    · rw [if_neg hcharged] at htrial
      rw [if_neg hcharged]
      simpa using htrial
  · rw [if_neg hgen, if_neg fun h => hgen h.1, List.nil_append]
    exact hswept.admitGeneral hgeneral hle hlast (hpast r.client)

/-- A request leaves the table tidy. -/
theorem step (hR : ∀ {t u}, R t u → t.Precedes u)
    (h : s.IsTidy R bound log (r.time :: future)) (hr : ∀ u ∈ future, R r.time u)
    (hgeneral : 1 ≤ limits.general) (hgeneration : 1 ≤ limits.generation)
    (hbound : max limits.general limits.generation ≤ bound) :
    (step limits s r).2.IsTidy R bound (log ++ r.charges (step limits s r).1) future := by
  have hw : Window R counts := window_counts_of_precedes hR
  refine ⟨h.follows.step hw limits hr, h.allLive_step hR hgeneral hgeneration hbound, ?_⟩
  intro u hu
  have hbefore : s.lastCleanup.Precedes u := h.cleanup u (List.mem_cons_of_mem _ hu)
  by_cases hpath : r.path = healthPath
  · rwa [Limiter.step, if_pos hpath]
  · rw [lastCleanup_step limits s hpath]
    rcases lastCleanup_sweep s r.time with heq | ⟨heq, -⟩ <;> rw [heq]
    · exact hR (hr u hu)
    · exact hbefore

/-- So does a run. -/
theorem run (hR : ∀ {t u}, R t u → t.Precedes u) {requests : List Arrival}
    (h : s.IsTidy R bound log (requests.map Arrival.time ++ future))
    (hclock : (requests.map Arrival.time ++ future).Pairwise R)
    (hgeneral : 1 ≤ limits.general) (hgeneration : 1 ≤ limits.generation)
    (hbound : max limits.general limits.generation ≤ bound) :
    (run limits s requests).2.IsTidy R bound (log ++ logOf (decided limits s requests)) future := by
  induction requests generalizing s log with
  | nil => simpa [logOf, Limiter.run] using h
  | cons r rest ih =>
    obtain ⟨hnow, hrest⟩ := List.pairwise_cons.1 hclock
    have hnext := ih (h.step hR hnow hgeneral hgeneration hbound) hrest
    rwa [List.append_assoc, ← logOf_singleton, ← logOf_append, List.singleton_append,
      ← decided_cons] at hnext

end State.IsTidy

/-! ### The last charge of a key -/

lemma IsNumber.isWithin_self {span : ℚ} {t : Seconds} (h : IsNumber t) (hspan : 0 < span) :
    IsWithin span t t := by
  obtain ⟨x, hx⟩ := h
  exact ⟨x, x, hx, hx, sub_lt_self x hspan⟩

/-- What a cleanup leaves lies at most a minute before it. -/
lemma IsWithin.of_not_isBelow {span : ℚ} {now t : Seconds} (h : IsWithin span now cleanup)
    (ht : IsNumber t) (htight : IsTight t cleanup)
    (hkept : t.isBelow (cleanup.minus window) = false) : IsWithin (span + 60) now t := by
  obtain ⟨x, z, hx, hz, hlt⟩ := h
  obtain ⟨y, hy⟩ := ht
  have hle : z - 60 ≤ y := by
    by_contra hbefore
    rw [htight z y hz hy (not_le.1 hbefore)] at hkept
    exact Bool.noConfusion hkept
  exact ⟨x, y, hx, hy, by linarith⟩

lemma IsWithin.of_precedes {span : ℚ} {now t u : Seconds} (h : IsWithin span now t)
    (hu : IsNumber u) (htu : t.Precedes u) : IsWithin span now u := by
  obtain ⟨x, z, hx, hz, hlt⟩ := h
  obtain ⟨y, hy⟩ := hu
  obtain ⟨p, q, hp, hq, hle⟩ := htu.position
  obtain rfl : (0, z) = p := Option.some_inj.1 (hz.symm.trans hp)
  obtain rfl : (0, y) = q := Option.some_inj.1 (hy.symm.trans hq)
  have hzy : z ≤ y := by simpa [Prod.Lex.toLex_le_toLex] using hle
  exact ⟨x, y, hx, hy, by linarith⟩

/-- After a request that may be refused, the last cleanup lies less than five minutes back. -/
lemma isWithin_lastCleanup_step (limits : Limits) {r : Arrival} (hpath : r.path ≠ healthPath)
    (hcleanup : s.lastCleanup.Precedes r.time) (hr : IsNumber r.time) :
    IsWithin 300 r.time (step limits s r).2.lastCleanup := by
  rw [lastCleanup_step limits s hpath]
  rcases lastCleanup_sweep s r.time with heq | ⟨heq, hbelow⟩ <;> rw [heq]
  · exact hr.isWithin_self (by norm_num)
  · exact isWithin_of_isBelow hcleanup hr hbelow

lemma IsLive.isWithin {now last : Seconds}
    (h : IsLive (fun t u => t.Precedes u ∧ IsTight t u) bound cleanup log key charges)
    (hcleanup : IsWithin 300 now cleanup) (hlast : charges.getLast? = some last)
    (hnumber : IsNumber last) : IsWithin 360 now last := by
  obtain ⟨last', hlast', -, hside⟩ := h.last
  obtain rfl : last = last' := Option.some_inj.1 (hlast.symm.trans hlast')
  rcases hside with hafter | ⟨⟨-, htight⟩, hkept⟩
  · obtain ⟨x, y, hx, hy, hlt⟩ := hcleanup.of_precedes hnumber hafter
    exact ⟨x, y, hx, hy, by linarith⟩
  · obtain ⟨x, y, hx, hy, hlt⟩ := hcleanup.of_not_isBelow hnumber htight hkept
    exact ⟨x, y, hx, hy, by linarith⟩

/-! ### The table after a request -/

lemma lookup_eq_of_mem {α : Type} {pairs : List (String × α)} (h : (Keyed.keys pairs).Nodup)
    {p : String × α} (hp : p ∈ pairs) : pairs.lookup p.1 = some p.2 := by
  induction pairs with
  | nil => simp at hp
  | cons q rest ih =>
    obtain ⟨hfresh, hrest⟩ : q.1 ∉ Keyed.keys rest ∧ (Keyed.keys rest).Nodup := List.nodup_cons.1 h
    rw [show q :: rest = (q.1, q.2) :: rest from rfl, Keyed.lookup_cons_eq]
    rcases List.mem_cons.1 hp with rfl | hp
    · rw [if_pos rfl]
    · have hne : p.1 ≠ q.1 := fun heq => hfresh (heq ▸ List.mem_map_of_mem hp)
      rw [if_neg hne, ih hrest hp]

/-- What a table is like at a reading: no key bears no charges or more than a bound. They are in
order and not later than the reading, and the last of them is the last one that the key has ever
borne. -/
structure State.IsBounded (s : State) (bound : Int) (log : List (String × Seconds))
    (now : Seconds) : Prop where
  nodup : (Keyed.keys s.charges).Nodup
  nonempty : ∀ p ∈ s.charges, p.2 ≠ []
  inOrder : ∀ p ∈ s.charges, p.2.Pairwise Seconds.Precedes
  past : ∀ p ∈ s.charges, ∀ t ∈ p.2, t.Precedes now
  length_le : ∀ p ∈ s.charges, (p.2.length : ℤ) ≤ bound
  last_eq : ∀ p ∈ s.charges, p.2.getLast? = (chargesTo p.1 log).getLast?

open scoped Classical in
/-- Whether all keys of a table have been charged in the last six minutes, so that there are not
more of them than charges in this time. -/
structure State.IsFresh (s : State) (log : List (String × Seconds)) (now : Seconds) : Prop where
  last : ∀ p ∈ s.charges, ∀ t, p.2.getLast? = some t → IsWithin 360 now t
  length_le : s.charges.length ≤ log.countP fun p => IsWithin 360 now p.2

lemma State.IsTidy.isBounded {now : Seconds} (h : s.IsTidy R bound log [])
    (hpast : ∀ p ∈ log, p.2.Precedes now) : s.IsBounded bound log now := by
  have hlookup {p} (hp : p ∈ s.charges) : s.charges.lookup p.1 = some p.2 :=
    lookup_eq_of_mem h.follows.wellKept.nodup hp
  have hlive {p} (hp : p ∈ s.charges) : IsLive R bound s.lastCleanup log p.1 p.2 :=
    h.live _ _ (hlookup hp)
  refine ⟨h.follows.wellKept.nodup, ?_, fun p hp => (hlive hp).inOrder, ?_,
    fun p hp => (hlive hp).length_le, ?_⟩
  · intro p hp hnil
    obtain ⟨last, hlast, -⟩ := (hlive hp).last
    simp [hnil] at hlast
  · intro p hp t ht
    have hcharges : s.chargesOf p.1 = p.2 := by rw [State.chargesOf, hlookup hp, Option.getD_some]
    have hmem : t ∈ chargesTo p.1 log := (h.follows.sublist p.1).subset (hcharges ▸ ht)
    exact hpast _ (mem_of_mem_chargesTo hmem)
  · intro p hp
    obtain ⟨last, hlast, hlog, -⟩ := (hlive hp).last
    rw [hlast, hlog]

open scoped Classical in
/-- If the last charges of all keys are recent, there are as many recent charges as keys at least,
since each key has one of its own. -/
lemma State.IsBounded.length_le_countP {now : Seconds} (h : s.IsBounded bound log now)
    (hlast : ∀ p ∈ s.charges, ∀ t, p.2.getLast? = some t → IsWithin 360 now t) :
    s.charges.length ≤ log.countP fun p => IsWithin 360 now p.2 := by
  let lasts : List (String × Seconds) := s.charges.map fun p => (p.1, p.2.getLastD now)
  have hnodup : lasts.Nodup := by
    apply List.Nodup.of_map Prod.fst
    simpa [lasts, Function.comp_def, Keyed.keys] using h.nodup
  have hsubset : lasts ⊆ log.filter fun p => IsWithin 360 now p.2 := by
    intro q hq
    obtain ⟨p, hp, rfl⟩ := List.mem_map.1 hq
    obtain ⟨t, ht⟩ : ∃ t, p.2.getLast? = some t :=
      ⟨_, List.getLast?_eq_some_getLast (h.nonempty p hp)⟩
    have hlog : (p.1, t) ∈ log := mem_of_getLast?_chargesTo ((h.last_eq p hp).symm.trans ht)
    rw [List.getLastD_eq_getLast?, ht, Option.getD_some]
    exact List.mem_filter.2 ⟨hlog, decide_eq_true (hlast p hp t ht)⟩
  calc s.charges.length = lasts.length := (List.length_map _).symm
    _ ≤ (log.filter fun p => IsWithin 360 now p.2).length := (hnodup.subperm hsubset).length_le
    _ = log.countP fun p => IsWithin 360 now p.2 := List.countP_eq_length_filter.symm

lemma time_mem_of_mem_logOf {limits : Limits} {requests : List Arrival} {p : String × Seconds}
    (h : p ∈ logOf (decided limits s requests)) : p.2 ∈ requests.map Arrival.time := by
  obtain ⟨⟨r, v⟩, hmem, hp⟩ := List.mem_flatMap.1 h
  rw [time_of_mem_charges hp]
  exact List.mem_map_of_mem (List.of_mem_zip hmem).1

section Run

variable {limits : Limits} {start : Seconds} {requests : List Arrival} {r : Arrival}

lemma isTidy_run {future : List Seconds} (hR : ∀ {t u}, R t u → t.Precedes u)
    (hstart : ∀ u ∈ requests.map Arrival.time ++ future, start.Precedes u)
    (hclock : (requests.map Arrival.time ++ future).Pairwise R)
    (hgeneral : 1 ≤ limits.general) (hgeneration : 1 ≤ limits.generation) :
    (run limits (State.start start) requests).2.IsTidy R (max limits.general limits.generation)
      (logOf (decided limits (State.start start) requests)) future :=
  (State.IsTidy.start hstart).run hR hclock hgeneral hgeneration le_rfl

/-- After a request that may be refused, the keys in the table bear charges, in order and not more
than the limits allow. If the readings are numbers, and rounding moves no minute's beginning down to
a reading before it, then no key is there that was last charged six minutes ago, and there are not
more keys than charges in this time. -/
theorem table_isBounded (limits : Limits) (start : Seconds) {requests : List Arrival} {r : Arrival}
    (hgeneral : 1 ≤ limits.general) (hgeneration : 1 ≤ limits.generation)
    (hpath : r.path ≠ healthPath)
    (hclock : (start :: (requests ++ [r]).map Arrival.time).Pairwise Seconds.Precedes) :
    let s := (run limits (State.start start) (requests ++ [r])).2
    let log := logOf (decided limits (State.start start) (requests ++ [r]))
    s.IsBounded (max limits.general limits.generation) log r.time ∧
      ((∀ t ∈ (requests ++ [r]).map Arrival.time, IsNumber t) →
        ((requests ++ [r]).map Arrival.time).Pairwise IsTight → s.IsFresh log r.time) := by
  intro s log
  obtain ⟨hstart, htimes⟩ := List.pairwise_cons.1 hclock
  have hnow : r.time ∈ (requests ++ [r]).map Arrival.time := by simp
  have hpast : ∀ t ∈ (requests ++ [r]).map Arrival.time, t.Precedes r.time := by
    rw [List.map_append, List.map_singleton] at htimes ⊢
    intro t ht
    rcases List.mem_append.1 ht with hbefore | hlast
    · exact (List.pairwise_append.1 htimes).2.2 t hbefore r.time (List.mem_singleton_self _)
    · exact List.mem_singleton.1 hlast ▸ (hstart r.time hnow).self
  have hbounded : s.IsBounded (max limits.general limits.generation) log r.time :=
    (isTidy_run id (by simpa using hstart) (by simpa using htimes) hgeneral hgeneration).isBounded
      fun p hp => hpast p.2 (time_mem_of_mem_logOf hp)
  refine ⟨hbounded, fun hnumbers htight => ?_⟩
  have htidy : s.IsTidy (fun t u => t.Precedes u ∧ IsTight t u) _ log [] :=
    isTidy_run And.left (by simpa using hstart) (by simpa using htimes.and htight) hgeneral
      hgeneration
  have hcleanup : IsWithin 300 r.time s.lastCleanup := by
    have hbefore : State.IsTidy Seconds.Precedes _ _ _ [r.time] :=
      isTidy_run id (by simpa using hstart) (by simpa using htimes) hgeneral hgeneration
    have hstep := isWithin_lastCleanup_step limits hpath
      (hbefore.cleanup r.time (List.mem_singleton_self _)) (hnumbers r.time hnow)
    rwa [← run_concat_snd] at hstep
  have hlast : ∀ p ∈ s.charges, ∀ t, p.2.getLast? = some t → IsWithin 360 r.time t := by
    intro p hp t ht
    have hlog : (p.1, t) ∈ log :=
      mem_of_getLast?_chargesTo ((hbounded.last_eq p hp).symm.trans ht)
    exact (htidy.live p.1 p.2 (lookup_eq_of_mem hbounded.nodup hp)).isWithin hcleanup ht
      (hnumbers t (time_mem_of_mem_logOf hlog))
  exact ⟨hlast, hbounded.length_le_countP hlast⟩

end Run

/-- Requests at 250, 300.5 and 600.25 seconds. The second one sweeps the table and leaves the charge
of the first, which is still there after the third, since the next cleanup is not due yet. -/
theorem table_isBounded_doubles :
    let zero : Seconds := .double (.finite false 0 0)
    let first : Arrival := ⟨"a", "/", .double (.finite false 250 0)⟩
    let second : Arrival := ⟨"b", generationPath, .double (.finite false 601 (-1))⟩
    let third : Arrival := ⟨"b", "/", .double (.finite false 2401 (-2))⟩
    let limits : Limits := ⟨1, 1, false⟩
    let s := (run limits (State.start zero) ([first, second] ++ [third])).2
    let log := logOf (decided limits (State.start zero) ([first, second] ++ [third]))
    1 ≤ limits.general ∧ 1 ≤ limits.generation ∧ third.path ≠ healthPath ∧
      (zero :: ([first, second] ++ [third]).map Arrival.time).Pairwise Seconds.Precedes ∧
      (∀ t ∈ ([first, second] ++ [third]).map Arrival.time, IsNumber t) ∧
      (([first, second] ++ [third]).map Arrival.time).Pairwise IsTight ∧
      s.IsBounded (max limits.general limits.generation) log third.time ∧
      s.IsFresh log third.time ∧
      s = ⟨[("a", [first.time]), ("b:generate", [second.time]), ("b", [third.time])],
        second.time⟩ := by
  intro zero first second third limits s log
  have hclock : (zero :: ([first, second] ++ [third]).map Arrival.time).Pairwise
      Seconds.Precedes := by
    simp only [List.cons_append, List.nil_append, List.map_cons, List.map_nil, List.pairwise_cons,
      List.mem_cons, List.not_mem_nil, or_false, forall_eq_or_imp, forall_eq]
    refine ⟨⟨?_, ?_, ?_⟩, ⟨?_, ?_⟩, ?_, by simp⟩ <;> exact precedes_double (by norm_num)
  have hordinary : ∀ t ∈ ([first, second] ++ [third]).map Arrival.time,
      IsNumber t ∧ IsOrdinary t := by
    intro t ht
    simp only [List.cons_append, List.nil_append, List.map_cons, List.map_nil, List.mem_cons,
      List.not_mem_nil, or_false] at ht
    rcases ht with rfl | rfl | rfl <;>
      exact ⟨⟨_, position?_double _ _⟩, by norm_num, by decide, by decide⟩
  have hnumbers : ∀ t ∈ ([first, second] ++ [third]).map Arrival.time, IsNumber t :=
    fun t ht => (hordinary t ht).1
  have htight : (([first, second] ++ [third]).map Arrival.time).Pairwise IsTight :=
    pairwise_isTight (List.pairwise_cons.1 hclock).2 fun t ht => (hordinary t ht).2
  have hpath : third.path ≠ healthPath := by decide
  obtain ⟨hbounded, hfresh⟩ := table_isBounded limits zero (by decide) (by decide) hpath hclock
  exact ⟨by decide, by decide, hpath, hclock, hnumbers, htight, hbounded,
    hfresh hnumbers htight, by decide +kernel⟩

/-- A charge at 520 seconds before the zero of the clock is left by a cleanup 60 + 2 ^ -44 seconds
later, since the beginning of the minute is rounded to it. So it is still in the table 360 seconds
after it was made. -/
theorem not_table_isFresh : ¬ ∀ (limits : Limits) (start : Seconds) (requests : List Arrival)
    (r : Arrival), 1 ≤ limits.general → 1 ≤ limits.generation → r.path ≠ healthPath →
    (start :: (requests ++ [r]).map Arrival.time).Pairwise Seconds.Precedes →
    (∀ t ∈ (requests ++ [r]).map Arrival.time, IsNumber t) →
    let s := (run limits (State.start start) (requests ++ [r])).2
    let log := logOf (decided limits (State.start start) (requests ++ [r]))
    s.IsBounded (max limits.general limits.generation) log r.time ∧ s.IsFresh log r.time := by
  intro h
  let start : Seconds := .double (.finite true 800 0)
  let first : Arrival := ⟨"a", "/", .double (.finite true 520 0)⟩
  let second : Arrival := ⟨"b", "/", .double (.finite true (460 * 2 ^ 44 - 1) (-44))⟩
  let third : Arrival := ⟨"b", "/", .double (.finite true 160 0)⟩
  have hclock : (start :: ([first, second] ++ [third]).map Arrival.time).Pairwise
      Seconds.Precedes := by
    simp only [List.cons_append, List.nil_append, List.map_cons, List.map_nil, List.pairwise_cons,
      List.mem_cons, List.not_mem_nil, or_false, forall_eq_or_imp, forall_eq]
    refine ⟨⟨?_, ?_, ?_⟩, ⟨?_, ?_⟩, ?_, by simp⟩ <;>
      exact precedes_finite (by norm_num [Binary64.signum])
  have hnumbers : ∀ t ∈ ([first, second] ++ [third]).map Arrival.time, IsNumber t := by
    intro t ht
    simp only [List.cons_append, List.nil_append, List.map_cons, List.map_nil, List.mem_cons,
      List.not_mem_nil, or_false] at ht
    rcases ht with rfl | rfl | rfl <;> exact ⟨_, Binary64.position?_finite _ _ _⟩
  obtain ⟨-, hfresh⟩ := h ⟨1, 1, false⟩ start [first, second] third (by decide) (by decide)
    (by decide) hclock hnumbers
  have hkept : ("a", [first.time]) ∈
      (run ⟨1, 1, false⟩ (State.start start) ([first, second] ++ [third])).2.charges := by
    decide +kernel
  obtain ⟨x, y, hx, hy, hlt⟩ := hfresh.last _ hkept first.time rfl
  rw [Seconds.position?, Binary64.position?_finite, Option.some_inj, Prod.mk.injEq] at hx hy
  obtain ⟨-, rfl⟩ := hx
  obtain ⟨-, rfl⟩ := hy
  norm_num [Binary64.signum] at hlt

end ControlSurface.Limiter
