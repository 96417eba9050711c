import ControlSurface.Proofs.Limiter.Budget
import ControlSurface.Proofs.Limiter.Ledger

/-!
# The archive

A limiter that forgets nothing: it keeps every charge that a key has ever borne, and looks among all
of them for those of the minute that ends with a request. The limiter decides as it does, although
it drops charges and sweeps its table, and whenever the table is swept.

The two agree on minutes as the limiter reckons them. If a minute begins exactly a minute before it
ends, they agree unless rounding moves a charge across its beginning.
-/

namespace ControlSurface.Limiter

/-! ### Minutes -/

/-- Whether a reading is not later than another one, and later than this one less a minute, which is
rounded if the readings are doubles. -/
def inReckonedMinute (now t : Seconds) : Bool := counts now t && !now.isBelow t

/-- Whether a reading is not later than another one, and less than a minute earlier. -/
def inExactMinute (now t : Seconds) : Bool := isWithinMinute now t && !now.isBelow t

/-- Whether a reading is one that a clock can hold: whole, or a double in its range. -/
def IsProper : Seconds → Prop
  | .double (.finite _ m e) =>
    m < 2 ^ 53 ∧ Binary64.leastExponent ≤ e ∧ e ≤ Binary64.greatestExponent
  | _ => True

lemma inReckonedMinute_eq_counts {t now : Seconds} (h : t.Precedes now) :
    inReckonedMinute now t = counts now t := by
  simp [inReckonedMinute, h.not_isBelow]

/-- A double that is not above the beginning of a minute is not above the beginning rounded, since
this is a double nearest to it. -/
lemma toLex_le_place {s : Bool} {m : ℕ} {e : ℤ} (hm : m < 2 ^ 53)
    (hleast : Binary64.leastExponent ≤ e) (hgreatest : e ≤ Binary64.greatestExponent) {x : ℚ}
    (h : Binary64.signum s * m * 2 ^ e ≤ x) :
    toLex (0, Binary64.signum s * m * 2 ^ e) ≤ toLex (Binary64.place (Binary64.rounded x)) := by
  have hnonneg : (0 : ℚ) ≤ m * 2 ^ e := by positivity
  have hplace := Binary64.place_of_lt_outOfRange s hnonneg
    (Binary64.mul_zpow_lt_outOfRange hm hgreatest)
  rw [← mul_assoc] at hplace
  rw [← hplace]
  apply Binary64.place_mono
  rw [← Binary64.rounded_eq s hm hleast]
  exact Binary64.rounded_mono h

/-- Rounding lets no charge in that lies before the minute. -/
lemma isWithinMinute_of_counts_double {x y : Binary64}
    (hxy : (Seconds.double x).Precedes (.double y)) (hx : IsProper (.double x))
    (h : counts (.double y) (.double x) = true) :
    isWithinMinute (.double y) (.double x) = true := by
  obtain ⟨p, q, hp, hq, hpq⟩ := hxy
  obtain ⟨b, p', hb, hp', hlt⟩ := (Seconds.isBelow_iff _ _).1 h
  obtain rfl : p = p' := Option.some_inj.1 (hp.symm.trans hp')
  cases y with
  | nan => cases hq
  | infinite s =>
    -- The minute before an infinite reading begins at this reading.
    obtain rfl : b = q := Option.some_inj.1 (hb.symm.trans hq)
    exact absurd hlt (not_lt.2 hpq)
  | finite s n f =>
    rw [position?_minus_window, Option.some_inj] at hb
    subst hb
    rw [Binary64.position?_finite, Option.some_inj] at hq
    subst hq
    cases x with
    | nan => cases hp
    | infinite t =>
      rw [Binary64.position?_infinite, Option.some_inj] at hp
      subst hp
      cases t
      · exact absurd hpq (by simp [Prod.Lex.toLex_le_toLex])
      · exact absurd hlt (not_lt.2 (Binary64.place_bounds _).1)
    | finite t m e =>
      obtain ⟨hm, hleast, hgreatest⟩ := hx
      rw [Binary64.position?_finite, Option.some_inj] at hp
      subst hp
      refine (isWithinMinute_iff _ _).2 ⟨_, _, Binary64.position?_finite s n f,
        Binary64.position?_finite t m e, not_le.1 fun hle => ?_⟩
      exact absurd hlt (not_lt.2 (toLex_le_place hm hleast hgreatest hle))

lemma isWithinMinute_of_counts {t now : Seconds} (h : t.Precedes now) (ht : IsProper t)
    (hcounts : counts now t = true) : isWithinMinute now t = true := by
  cases t with
  | whole m =>
    cases now with
    | whole n =>
      have hlt : n - 60 < m := by simpa [counts, window] using hcounts
      exact (isWithinMinute_iff _ _).2 ⟨n, m, rfl, rfl, by exact_mod_cast hlt⟩
    | double y => exact h.elim
  | double x =>
    cases now with
    | whole n => exact h.elim
    | double y => exact isWithinMinute_of_counts_double h ht hcounts

/-- If rounding makes no charge drop out of the minute, both ways of reckoning agree on it. -/
lemma inExactMinute_eq_counts {t now : Seconds} (h : t.Precedes now) (ht : IsProper t)
    (hexact : IsExact t now) : inExactMinute now t = counts now t := by
  have hiff : isWithinMinute now t = true ↔ counts now t = true :=
    ⟨hexact, isWithinMinute_of_counts h ht⟩
  rw [inExactMinute, h.not_isBelow, Bool.not_false, Bool.and_true, Bool.eq_iff_iff]
  exact hiff

/-! ### A limiter that forgets nothing -/

/-- All charges that each key has ever borne, in their order. -/
abbrev Archive := String → List Seconds

namespace Archive

/-- No charges. -/
def empty : Archive := fun _ => []

/-- One more charge of a key. -/
def charge (a : Archive) (key : String) (now : Seconds) : Archive :=
  Function.update a key (a key ++ [now])

variable (within : Seconds → Seconds → Bool)

/-- How many charges of a key lie in the minute that ends at a time. -/
def burden (a : Archive) (key : String) (now : Seconds) : ℕ := (a key).countP (within now)

/-- Charges a request to its client, unless the client bears as many charges as it may. -/
def admitGeneral (limits : Limits) (a : Archive) (r : Arrival) : Verdict × Archive :=
  if limits.general ≤ a.burden within r.client r.time then (.generalRefused, a)
  else (.admitted, a.charge r.client r.time)

/-- Decides about a request. One that runs the generator is charged for that first, unless its
client bears as many charges for the generator as it may. -/
def step (limits : Limits) (a : Archive) (r : Arrival) : Verdict × Archive :=
  if r.path = healthPath then (.admitted, a)
  else if isGeneration r.path then
    if limits.generation ≤ a.burden within (generationKey r.client) r.time then
      (.generationRefused, a)
    else admitGeneral within limits (a.charge (generationKey r.client) r.time) r
  else admitGeneral within limits a r

/-- Decides about requests one after the other. -/
def verdicts (limits : Limits) : Archive → List Arrival → List Verdict
  | _, [] => []
  | a, r :: rest => (step within limits a r).1 :: verdicts limits (step within limits a r).2 rest

/-- The archive of a log. -/
def ofLog (log : List (String × Seconds)) : Archive := fun key => chargesTo key log

variable {within} {limits : Limits} {log : List (String × Seconds)} {r : Arrival}

lemma ofLog_charge (log : List (String × Seconds)) (key : String) (now : Seconds) :
    (ofLog log).charge key now = ofLog (log ++ [(key, now)]) := by
  funext k
  by_cases hk : k = key
  · subst hk
    simp [charge, ofLog]
  · simp [charge, ofLog, hk]

/-- If a test tells which charges of a log count, the burdens of all keys are those of the log. -/
lemma burden_ofLog (h : ∀ p ∈ log, within r.time p.2 = counts r.time p.2) (key : String) :
    (ofLog log).burden within key r.time = Limiter.burden r.time key log := by
  rw [burden, Limiter.burden, recent_eq_filter, ← List.countP_eq_length_filter]
  apply List.countP_congr
  intro t ht
  rw [h (key, t) (mem_of_mem_chargesTo ht)]

/-- A charge to another key is no burden. -/
lemma burden_charge_of_ne (a : Archive) {key k : String} (hk : k ≠ key) (t now : Seconds) :
    (a.charge key t).burden within k now = a.burden within k now := by
  simp [burden, charge, hk]

/-- One request is decided about as in the ledger, and leaves the same charges. -/
theorem step_ofLog (h : ∀ p ∈ log, within r.time p.2 = counts r.time p.2) :
    step within limits (ofLog log) r =
      (judge limits log r, ofLog (log ++ r.charges (judge limits log r))) := by
  have hne : r.client ≠ generationKey r.client := (generationKey_ne r.client).symm
  unfold step admitGeneral judge verdictOf Arrival.charges
  rw [burden_charge_of_ne _ hne, burden_ofLog h, burden_ofLog h, ofLog_charge, ofLog_charge,
    ofLog_charge]
  split_ifs <;> simp_all

/-- A run is decided about as in the ledger, if the test tells which charges count whenever one
reading stands in some relation to another one. -/
theorem verdicts_ofLog {R : Seconds → Seconds → Prop}
    (hwithin : ∀ {t now}, R t now → within now t = counts now t) {requests : List Arrival}
    (hpast : ∀ p ∈ log, ∀ now ∈ requests.map Arrival.time, R p.2 now)
    (hclock : (requests.map Arrival.time).Pairwise R) :
    verdicts within limits (ofLog log) requests = (ledger limits log requests).map Prod.snd := by
  induction requests generalizing log with
  | nil => rfl
  | cons r rest ih =>
    obtain ⟨hnow, hrest⟩ := List.pairwise_cons.1 hclock
    have hstep : step within limits (ofLog log) r = _ :=
      step_ofLog fun p hp => hwithin (hpast p hp _ (List.mem_cons_self ..))
    rw [verdicts, ledger, List.map_cons, hstep, ih ?_ hrest]
    intro p hp now hmem
    rcases List.mem_append.1 hp with hp | hp
    · exact hpast p hp now (List.mem_cons_of_mem _ hmem)
    · rw [time_of_mem_charges hp]
      exact hnow now hmem

end Archive

/-! ### Cleanups at any time -/

/-- Decides about requests one after the other when the time of the last cleanup has been set to
some value before each of them, so that the table is swept at any requests whatever. -/
def runWithCleanups (limits : Limits) : State → List (Arrival × Seconds) → List Verdict
  | _, [] => []
  | s, (r, cleanup) :: rest =>
    let next := step limits { s with lastCleanup := cleanup } r
    next.1 :: runWithCleanups limits next.2 rest

variable {limits : Limits} {s : State} {log : List (String × Seconds)}

/-- What the table has in common with the log is independent of the last cleanup. -/
lemma Follows.withCleanup {R : Seconds → Seconds → Prop} {V : Seconds → Seconds → Bool}
    {future : List Seconds} (h : Follows R V s log future) (cleanup : Seconds) :
    Follows R V { s with lastCleanup := cleanup } log future :=
  ⟨⟨h.wellKept.nodup, h.wellKept.inOrder⟩, h.sublist, h.filter_eq, h.past⟩

theorem Follows.runWithCleanups_eq {visits : List (Arrival × Seconds)}
    (h : Follows Seconds.Precedes counts s log (visits.map fun p => p.1.time))
    (hclock : (visits.map fun p => p.1.time).Pairwise Seconds.Precedes) :
    runWithCleanups limits s visits = (ledger limits log (visits.map Prod.fst)).map Prod.snd := by
  induction visits generalizing s log with
  | nil => rfl
  | cons visit rest ih =>
    obtain ⟨r, cleanup⟩ := visit
    obtain ⟨hnow, hrest⟩ := List.pairwise_cons.1 hclock
    have hset := h.withCleanup cleanup
    have hnext := hset.step window_counts limits hnow
    rw [hset.step_eq_judge] at hnext
    rw [List.map_cons, ledger, List.map_cons, runWithCleanups, hset.step_eq_judge, ih hnext hrest]

/-! ### Refinement -/

lemma map_snd_decided (limits : Limits) (s : State) (requests : List Arrival) :
    (decided limits s requests).map Prod.snd = (run limits s requests).1 := by
  induction requests generalizing s with
  | nil => rfl
  | cons r rest ih => rw [decided_cons, List.map_cons, ih, run]

/-- The limiter decides as the archive does that reckons minutes like it, and so it does whenever
the table is swept. Requests for the health of the service are admitted and leave no trace. If no
reading is moved across the beginning of a minute by rounding, then the minutes may be reckoned
exactly. -/
theorem run_eq_archive (limits : Limits) (start : Seconds) {requests : List Arrival}
    (hclock : (requests.map Arrival.time).Pairwise Seconds.Precedes) :
    (run limits (State.start start) requests).1 =
        Archive.empty.verdicts inReckonedMinute limits requests ∧
      (∀ cleanups : List Seconds, cleanups.length = requests.length →
        runWithCleanups limits (State.start start) (requests.zip cleanups) =
          Archive.empty.verdicts inReckonedMinute limits requests) ∧
      (∀ (s : State) (r : Arrival), r.path = healthPath → step limits s r = (.admitted, s)) ∧
      ((∀ t ∈ requests.map Arrival.time, IsProper t) →
        (requests.map Arrival.time).Pairwise IsExact →
        (run limits (State.start start) requests).1 =
          Archive.empty.verdicts inExactMinute limits requests) := by
  have hrun : (run limits (State.start start) requests).1 =
      (ledger limits [] requests).map Prod.snd := by
    rw [← map_snd_decided, decided_eq_ledger limits start hclock]
  have hnone {R : Seconds → Seconds → Prop} :
      ∀ p ∈ ([] : List (String × Seconds)), ∀ now ∈ requests.map Arrival.time, R p.2 now :=
    fun p hp => absurd hp List.not_mem_nil
  have hreckoned : Archive.empty.verdicts inReckonedMinute limits requests = _ :=
    Archive.verdicts_ofLog inReckonedMinute_eq_counts hnone hclock
  refine ⟨?_, fun cleanups hlength => ?_, fun s r hpath => ?_, fun hproper hexact => ?_⟩
  · rw [hrun, hreckoned]
  · have hfst : (requests.zip cleanups).map Prod.fst = requests :=
      List.map_fst_zip hlength.ge
    have htime : (requests.zip cleanups).map (fun p => p.1.time) =
        ((requests.zip cleanups).map Prod.fst).map Arrival.time := by
      rw [List.map_map]
      rfl
    rw [hfst] at htime
    rw [hreckoned, Follows.runWithCleanups_eq (Follows.start start) (htime ▸ hclock), hfst]
  · rw [step, if_pos hpath]
  · have hboth := (hclock.and hexact).imp_of_mem fun ht _ h => And.intro (hproper _ ht) h
    rw [hrun]
    exact (Archive.verdicts_ofLog (fun h => inExactMinute_eq_counts h.2.1 h.1 h.2.2)
      hnone hboth).symm

/-- A request at 0 seconds and two that run the generator, at 59.5 and 60.25 seconds. The first of
these is refused for the general limit and stays charged for the generator. -/
theorem run_eq_archive_doubles :
    let requests : List Arrival := [⟨"a", "/", .double (.finite false 0 0)⟩,
      ⟨"a", generationPath, .double (.finite false 119 (-1))⟩,
      ⟨"a", generationPath, .double (.finite false 241 (-2))⟩]
    let limits : Limits := ⟨1, 1, false⟩
    (requests.map Arrival.time).Pairwise Seconds.Precedes ∧
      (∀ t ∈ requests.map Arrival.time, IsProper t) ∧
      (requests.map Arrival.time).Pairwise IsExact ∧
      (run limits (State.start (.whole 0)) requests).1 =
        Archive.empty.verdicts inReckonedMinute limits requests ∧
      runWithCleanups limits (State.start (.whole 0))
          (requests.zip [.double .nan, .whole 59, .double .nan]) =
        Archive.empty.verdicts inReckonedMinute limits requests ∧
      (run limits (State.start (.whole 0)) requests).1 =
        Archive.empty.verdicts inExactMinute limits requests ∧
      Archive.empty.verdicts inExactMinute limits requests =
        [.admitted, .generalRefused, .generationRefused] := by
  intro requests limits
  have hclock : (requests.map Arrival.time).Pairwise Seconds.Precedes := by
    refine .cons ?_ (.cons ?_ (List.pairwise_singleton _ _))
    · intro t ht
      simp only [List.map_cons, List.map_nil, List.mem_cons, List.not_mem_nil, or_false] at ht
      rcases ht with rfl | rfl <;> exact precedes_double (by norm_num)
    · intro t ht
      simp only [List.map_cons, List.map_nil, List.mem_singleton] at ht
      subst ht
      exact precedes_double (by norm_num)
  have hordinary : ∀ t ∈ requests.map Arrival.time, IsOrdinary t ∧ IsProper t := by
    intro t ht
    simp only [requests, List.map_cons, List.map_nil, List.mem_cons, List.not_mem_nil, or_false]
      at ht
    rcases ht with rfl | rfl | rfl <;>
      exact ⟨⟨by norm_num, by decide, by decide⟩, ⟨by norm_num, by decide, by decide⟩⟩
  have hproper : ∀ t ∈ requests.map Arrival.time, IsProper t := fun t ht => (hordinary t ht).2
  have hexact : (requests.map Arrival.time).Pairwise IsExact :=
    pairwise_isExact hclock fun t ht => (hordinary t ht).1
  obtain ⟨hreckoned, hcleanups, -, hexactly⟩ := run_eq_archive limits (.whole 0) hclock
  exact ⟨hclock, hproper, hexact, hreckoned, hcleanups _ rfl, hexactly hproper hexact,
    by decide +kernel⟩

/-- With a limit of one, requests at a minute and at 2 ^ -49 seconds before the zero of the clock
are both admitted, although less than a minute lies between them. -/
theorem not_run_eq_exact_archive : ¬ ∀ (limits : Limits) (start : Seconds)
    (requests : List Arrival), (requests.map Arrival.time).Pairwise Seconds.Precedes →
    (run limits (State.start start) requests).1 =
      Archive.empty.verdicts inExactMinute limits requests := by
  intro h
  let t : Seconds := .double (.finite true (15 * 2 ^ 49) (-47))
  let now : Seconds := .double (.finite true (2 ^ 52) (-101))
  have hclock : t.Precedes now := precedes_finite (by norm_num [Binary64.signum])
  have hcounts : counts now t = false := by decide
  have hrun := run_of_not_counts 1 false (.whole 0) hcounts "a" "/" (by decide) (by decide)
  have harchive : Archive.empty.verdicts inExactMinute ⟨1, 1, false⟩
      [⟨"a", "/", t⟩, ⟨"a", "/", now⟩] = [.admitted, .generalRefused] := by
    decide +kernel
  have heq := h ⟨1, 1, false⟩ (.whole 0) [⟨"a", "/", t⟩, ⟨"a", "/", now⟩]
    (List.pairwise_pair.2 hclock)
  rw [hrun, harchive] at heq
  exact absurd heq (by decide)

end ControlSurface.Limiter
