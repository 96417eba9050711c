import ControlSurface.Proofs.Limiter.Ledger

/-!
# Isolation of clients

Whether the requests of one client have a bearing on what is decided about another's. The name of a
client may be that of the key that a second one's use of the generator is charged to, and so there
are chains of clients each of which is held responsible for the next.
-/

namespace ControlSurface.Limiter

/-- A request as it comes in, with the hops that the header names and the host at the other end. -/
structure Call where
  forwarded : Option String
  host : Option String
  path : String
  time : Seconds
deriving DecidableEq, Repr

/-- A request with the client that it is charged to. -/
def Call.arrival (limits : Limits) (c : Call) : Arrival :=
  ⟨clientOf limits c.forwarded c.host, c.path, c.time⟩

/-- The decisions about requests of a client. -/
def onlyOf (client : String) (decisions : List (Arrival × Verdict)) : List (Arrival × Verdict) :=
  decisions.filter fun p => p.1.client = client

/-- What is decided in a run about the requests of a client. -/
def decisionsOn (client : String) (limits : Limits) (start : Seconds) (calls : List Call) :
    List (Arrival × Verdict) :=
  onlyOf client (decided limits (State.start start) (calls.map (Call.arrival limits)))

/-- Whether what is decided about the requests of a client stays the same if all requests of another
one are left out, in all runs with a clock whose readings are in order. -/
def IsIsolated (trustForwarded : Bool) (client other : String) : Prop :=
  ∀ (general generation : Int) (start : Seconds) (calls : List Call),
    (calls.map Call.time).Pairwise Seconds.Precedes →
    decisionsOn client ⟨general, generation, trustForwarded⟩ start calls =
      decisionsOn client ⟨general, generation, trustForwarded⟩ start (calls.filter fun c =>
        clientOf ⟨general, generation, trustForwarded⟩ c.forwarded c.host ≠ other)

lemma onlyOf_cons_of_eq {client : String} {r : Arrival} (h : r.client = client) (v : Verdict)
    (decisions : List (Arrival × Verdict)) :
    onlyOf client ((r, v) :: decisions) = (r, v) :: onlyOf client decisions :=
  List.filter_cons_of_pos (decide_eq_true h)

lemma onlyOf_cons_of_ne {client : String} {r : Arrival} (h : r.client ≠ client) (v : Verdict)
    (decisions : List (Arrival × Verdict)) :
    onlyOf client ((r, v) :: decisions) = onlyOf client decisions :=
  List.filter_cons_of_neg fun heq => h (of_decide_eq_true heq)

/-- The requests that are not a client's. -/
def without (client : String) (requests : List Arrival) : List Arrival :=
  requests.filter fun r => r.client ≠ client

lemma without_cons_of_eq {client : String} {r : Arrival} (h : r.client = client)
    (requests : List Arrival) : without client (r :: requests) = without client requests :=
  List.filter_cons_of_neg (by simpa using h)

lemma without_cons_of_ne {client : String} {r : Arrival} (h : r.client ≠ client)
    (requests : List Arrival) : without client (r :: requests) = r :: without client requests :=
  List.filter_cons_of_pos (by simpa using h)

lemma map_time_arrival (limits : Limits) (calls : List Call) :
    (calls.map (Call.arrival limits)).map Arrival.time = calls.map Call.time := by
  rw [List.map_map]
  rfl

/-- The limiter may be replaced by the ledger. -/
lemma decisionsOn_eq (client : String) (limits : Limits) (start : Seconds) {calls : List Call}
    (hclock : (calls.map Call.time).Pairwise Seconds.Precedes) :
    decisionsOn client limits start calls =
      onlyOf client (ledger limits [] (calls.map (Call.arrival limits))) := by
  rw [decisionsOn, decided_eq_ledger]
  rwa [map_time_arrival]

lemma filter_map_arrival (limits : Limits) (calls : List Call) (client : String) :
    (calls.filter fun c => clientOf limits c.forwarded c.host ≠ client).map (Call.arrival limits) =
      without client (calls.map (Call.arrival limits)) := by
  rw [without, List.filter_map]
  rfl

/-! ### Chains of clients -/

lemma generationKey_injective : Function.Injective generationKey := by
  intro a b h
  have hlist := congrArg String.toList h
  rw [generationKey, generationKey, String.toList_append, String.toList_append] at hlist
  exact String.toList_injective (List.append_cancel_right hlist)

lemma length_iterate_generationKey (client : String) (n : ℕ) :
    (generationKey^[n] client).length = client.length + 9 * n := by
  induction n with
  | zero => rfl
  | succ n ih =>
    rw [Function.iterate_succ_apply', generationKey, String.length_append, ih]
    rfl

lemma iterate_generationKey_injective (client : String) :
    Function.Injective fun n => generationKey^[n] client := by
  intro m n h
  have hlength := congrArg String.length h
  simp only [length_iterate_generationKey] at hlength
  omega

lemma iterate_generationKey_ne (client : String) {m n : ℕ} (h : m < n) :
    generationKey^[n] client ≠ generationKey^[m] client :=
  fun heq => absurd (iterate_generationKey_injective client heq) h.ne'

/-- Whether two logs agree on the keys of a client, of the client that its generator key may be the
name of, and so on. -/
def Agree (client : String) (log log' : List (String × Seconds)) : Prop :=
  ∀ n, chargesTo (generationKey^[n] client) log = chargesTo (generationKey^[n] client) log'

variable {limits : Limits} {client other : String} {log log' : List (String × Seconds)}
  {r : Arrival}

lemma Agree.burden_eq (h : Agree client log log') (now : Seconds) (n : ℕ) :
    burden now (generationKey^[n] client) log = burden now (generationKey^[n] client) log' := by
  rw [burden, burden, h n]

/-- Requests of clients along the chain are decided about alike. -/
lemma Agree.judge_eq (h : Agree client log log') {n : ℕ}
    (hr : r.client = generationKey^[n] client) : judge limits log r = judge limits log' r := by
  have hkey : generationKey r.client = generationKey^[n + 1] client := by
    rw [hr, Function.iterate_succ_apply']
  rw [judge, judge, hkey, hr, h.burden_eq, h.burden_eq]

lemma chargesTo_charges_of_ne {key : String} (hne : r.client ≠ key)
    (hne' : generationKey r.client ≠ key) (v : Verdict) : chargesTo key (r.charges v) = [] := by
  unfold Arrival.charges
  split_ifs <;> simp [hne.symm, hne'.symm]

/-- A request of a client of the chain is charged to no key that comes before this client. -/
lemma chargesTo_charges_of_lt {m n : ℕ} (h : m < n) (hr : r.client = generationKey^[n] client)
    (v : Verdict) : chargesTo (generationKey^[m] client) (r.charges v) = [] := by
  refine chargesTo_charges_of_ne ?_ ?_ v
  · rw [hr]
    exact iterate_generationKey_ne client h
  · rw [hr, ← Function.iterate_succ_apply' generationKey]
    exact iterate_generationKey_ne client (h.trans n.lt_succ_self)

lemma chargesTo_generationKey_charges (r : Arrival) (v : Verdict) :
    chargesTo (generationKey r.client) (r.charges v) =
      if r.path ≠ healthPath ∧ isGeneration r.path = true ∧ v ≠ .generationRefused then [r.time]
      else [] := by
  have hne := generationKey_ne r.client
  unfold Arrival.charges
  by_cases hpath : r.path = healthPath
  · simp [hpath]
  · rw [if_neg hpath, chargesTo_append]
    split_ifs <;> simp_all

lemma chargesTo_client_charges (r : Arrival) (v : Verdict) :
    chargesTo r.client (r.charges v) =
      if r.path ≠ healthPath ∧ v = .admitted then [r.time] else [] := by
  have hne := (generationKey_ne r.client).symm
  unfold Arrival.charges
  by_cases hpath : r.path = healthPath
  · simp [hpath]
  · rw [if_neg hpath, chargesTo_append]
    split_ifs <;> simp_all

/-- Whether the generator is refused depends on the generator key alone. -/
lemma judge_eq_generationRefused_iff : judge limits log r = .generationRefused ↔
    r.path ≠ healthPath ∧ isGeneration r.path = true ∧
      limits.generation ≤ burden r.time (generationKey r.client) log := by
  unfold judge verdictOf
  split_ifs with hpath hgen <;> simp_all

/-- The logs go on agreeing if the same request is decided about. -/
lemma Agree.append_charges (h : Agree client log log') :
    Agree client (log ++ r.charges (judge limits log r))
      (log' ++ r.charges (judge limits log' r)) := by
  intro n
  rw [chargesTo_append, chargesTo_append, h n]
  by_cases hchain : ∃ m, r.client = generationKey^[m] client
  · obtain ⟨m, hm⟩ := hchain
    rw [h.judge_eq hm]
  · have hne : r.client ≠ generationKey^[n] client := fun heq => hchain ⟨n, heq⟩
    by_cases hkey : generationKey r.client = generationKey^[n] client
    · -- A client before the chain is charged here for the generator only.
      have hiff : judge limits log r = .generationRefused ↔
          judge limits log' r = .generationRefused := by
        rw [judge_eq_generationRefused_iff, judge_eq_generationRefused_iff, hkey, h.burden_eq]
      rw [← hkey, chargesTo_generationKey_charges, chargesTo_generationKey_charges]
      simp only [ne_eq, hiff]
    · rw [chargesTo_charges_of_ne hne hkey, chargesTo_charges_of_ne hne hkey]

/-- The logs go on agreeing if a request is left out that is not charged to any of these keys. -/
lemma Agree.append_left (h : Agree client log log')
    (hchain : ∀ n, r.client ≠ generationKey^[n] client)
    (hkey : client ≠ generationKey r.client) (v : Verdict) :
    Agree client (log ++ r.charges v) log' := by
  intro n
  have hne : generationKey r.client ≠ generationKey^[n] client := by
    cases n with
    | zero => exact hkey.symm
    | succ n =>
      rw [Function.iterate_succ_apply']
      exact fun heq => hchain n (generationKey_injective heq)
  rw [chargesTo_append, chargesTo_charges_of_ne (hchain n) hne, List.append_nil, h n]

/-- Leaving out all requests of a client that is not part of the chain changes no decision. -/
lemma ledger_filter (hchain : ∀ n, other ≠ generationKey^[n] client)
    (hkey : client ≠ generationKey other) (requests : List Arrival) (h : Agree client log log') :
    onlyOf client (ledger limits log requests) =
      onlyOf client (ledger limits log' (without other requests)) := by
  induction requests generalizing log log' with
  | nil => rfl
  | cons r rest ih =>
    by_cases hother : r.client = other
    · subst hother
      have hskip : r.client ≠ client := hchain 0
      rw [ledger, onlyOf_cons_of_ne hskip, without_cons_of_eq rfl]
      exact ih (h.append_left hchain hkey _)
    · rw [without_cons_of_ne hother, ledger, ledger]
      by_cases hclient : r.client = client
      · have hverdict : judge limits log r = judge limits log' r := h.judge_eq (n := 0) hclient
        rw [onlyOf_cons_of_eq hclient, onlyOf_cons_of_eq hclient, ih h.append_charges, hverdict]
      · rw [onlyOf_cons_of_ne hclient, onlyOf_cons_of_ne hclient]
        exact ih h.append_charges

theorem isIsolated_of_ne (trustForwarded : Bool) (hchain : ∀ n, other ≠ generationKey^[n] client)
    (hkey : client ≠ generationKey other) : IsIsolated trustForwarded client other := by
  intro general generation start calls hclock
  rw [decisionsOn_eq _ _ _ hclock,
    decisionsOn_eq _ _ _ (hclock.sublist (List.filter_sublist.map _)), filter_map_arrival]
  exact ledger_filter hchain hkey _ fun _ => rfl

/-! ### Runs in which clients meddle -/

/-- A request at the zero of the clock from a host. -/
def callFrom (path host : String) : Call := ⟨none, some host, path, .whole 0⟩

/-- The arrival that this makes. -/
def arrivalOf (path client : String) : Arrival := ⟨client, path, .whole 0⟩

/-- One request each for the generator from the clients of a chain, the first client last. -/
def chainOf (client : String) : ℕ → List String
  | 0 => []
  | n + 1 => generationKey^[n] client :: chainOf client n

/-- At most one request of each kind. -/
def single (trustForwarded : Bool) : Limits := ⟨1, 1, trustForwarded⟩

lemma client_arrivalOf (path client : String) : (arrivalOf path client).client = client := rfl

lemma mem_chainOf {n : ℕ} {name : String} (h : name ∈ chainOf client n) :
    ∃ m < n, name = generationKey^[m] client := by
  induction n with
  | zero => exact absurd h List.not_mem_nil
  | succ n ih =>
    rcases List.mem_cons.1 h with rfl | h
    · exact ⟨n, n.lt_succ_self, rfl⟩
    · obtain ⟨m, hm, rfl⟩ := ih h
      exact ⟨m, hm.trans n.lt_succ_self, rfl⟩

lemma burden_of_chargesTo {key : String} (charged : Bool)
    (h : chargesTo key log = if charged then [.whole 0] else []) :
    burden (.whole 0) key log = charged.toNat := by
  rw [burden, h]
  cases charged <;> decide

lemma judge_arrivalOf (trustForwarded charged charged' : Bool) (path : String)
    (hgeneration : chargesTo (generationKey client) log = if charged then [.whole 0] else [])
    (hgeneral : chargesTo client log = if charged' then [.whole 0] else []) :
    judge (single trustForwarded) log (arrivalOf path client) =
      verdictOf (single trustForwarded) path charged.toNat charged'.toNat := by
  rw [← burden_of_chargesTo charged hgeneration, ← burden_of_chargesTo charged' hgeneral]
  rfl

lemma judge_arrivalOf_generation (trustForwarded charged : Bool)
    (hgeneration : chargesTo (generationKey client) log = if charged then [.whole 0] else [])
    (hgeneral : chargesTo client log = []) :
    judge (single trustForwarded) log (arrivalOf generationPath client) =
      if charged then .generationRefused else .admitted := by
  rw [judge_arrivalOf trustForwarded charged false generationPath hgeneration hgeneral]
  cases charged <;> rfl

/-- Along a chain of clients those are admitted whose neighbour has not been. -/
lemma ledger_chainOf (trustForwarded : Bool) (n : ℕ) (log : List (String × Seconds))
    (charged : Bool) (hfree : ∀ m ≤ n, chargesTo (generationKey^[m] client) log = [])
    (hlast : chargesTo (generationKey^[n + 1] client) log = if charged then [.whole 0] else []) :
    onlyOf client (ledger (single trustForwarded) log
        ((chainOf client (n + 1)).map (arrivalOf generationPath))) =
      [(arrivalOf generationPath client,
        if not^[n] charged then .generationRefused else .admitted)] := by
  induction n generalizing log charged with
  | zero =>
    have hverdict := judge_arrivalOf_generation trustForwarded charged hlast (hfree 0 le_rfl)
    rw [chainOf, chainOf, List.map_singleton, ledger, ledger, Function.iterate_zero_apply, hverdict,
      onlyOf_cons_of_eq (client_arrivalOf _ _), Function.iterate_zero_apply]
    rfl
  | succ n ih =>
    have hskip : (arrivalOf generationPath (generationKey^[n + 1] client)).client ≠ client :=
      iterate_generationKey_ne client n.succ_pos
    rw [Function.iterate_succ_apply'] at hlast
    have hverdict := judge_arrivalOf_generation trustForwarded charged hlast (hfree (n + 1) le_rfl)
    rw [chainOf, List.map_cons, ledger, onlyOf_cons_of_ne hskip, Function.iterate_succ_apply not]
    apply ih
    · intro m hm
      rw [chargesTo_append, hfree m (by omega), List.nil_append]
      exact chargesTo_charges_of_lt (Nat.lt_succ_of_le hm) rfl _
    · rw [chargesTo_append, hfree (n + 1) le_rfl, hverdict, List.nil_append]
      refine (chargesTo_client_charges (arrivalOf _ (generationKey^[n + 1] client)) _).trans ?_
      cases charged <;> rfl

/-- The calls of a chain of clients, after one of the client next to it that does not run the
generator. -/
def meddling (client : String) (n : ℕ) : List Call :=
  callFrom "/" (generationKey^[n] client) :: (chainOf client n).map (callFrom generationPath)

/-- The arrivals at the limiter that these calls make. -/
lemma map_arrival_meddling (limits : Limits) (n : ℕ) :
    (meddling client n).map (Call.arrival limits) = arrivalOf "/" (generationKey^[n] client) ::
      (chainOf client n).map (arrivalOf generationPath) := by
  rw [meddling, List.map_cons, List.map_map]
  rfl

lemma precedes_whole_self (n : Int) : (Seconds.whole n).Precedes (.whole n) := le_refl n

/-- A clock that stands still is in order. -/
lemma pairwise_of_still {times : List Seconds} (h : ∀ t ∈ times, t = .whole 0) :
    times.Pairwise Seconds.Precedes := by
  apply List.pairwise_of_forall_mem_list
  intro t ht u hu
  rw [h t ht, h u hu]
  exact precedes_whole_self 0

/-- All calls from hosts come at the same time. -/
lemma pairwise_time {calls : List Call} (h : ∀ c ∈ calls, c.time = .whole 0) :
    (calls.map Call.time).Pairwise Seconds.Precedes :=
  pairwise_of_still (List.forall_mem_map.2 h)

lemma time_of_mem_meddling {n : ℕ} {c : Call} (h : c ∈ meddling client n) : c.time = .whole 0 := by
  rcases List.mem_cons.1 h with rfl | h
  · rfl
  · obtain ⟨name, -, rfl⟩ := List.mem_map.1 h
    rfl

/-- Without the client next to the chain, the chain is left. -/
lemma without_chainOf (n : ℕ) :
    without (generationKey^[n] client) ((chainOf client n).map (arrivalOf generationPath)) =
      (chainOf client n).map (arrivalOf generationPath) := by
  rw [without, List.filter_eq_self]
  intro r hr
  obtain ⟨name, hname, rfl⟩ := List.mem_map.1 hr
  obtain ⟨m, hm, rfl⟩ := mem_chainOf hname
  exact decide_eq_true (iterate_generationKey_ne client hm).symm

lemma judge_first (trustForwarded : Bool) (name : String) :
    judge (single trustForwarded) [] (arrivalOf "/" name) = .admitted := by
  rw [judge_arrivalOf trustForwarded false false "/" rfl rfl]
  rfl

/-- If a client is isolated from another one, leaving out the other changes nothing about it in the
ledger of a run at one time. -/
lemma IsIsolated.onlyOf_ledger {trustForwarded : Bool} (h : IsIsolated trustForwarded client other)
    (calls : List Call) (htime : ∀ c ∈ calls, c.time = .whole 0) :
    onlyOf client (ledger (single trustForwarded) []
        (calls.map (Call.arrival (single trustForwarded)))) =
      onlyOf client (ledger (single trustForwarded) []
        (without other (calls.map (Call.arrival (single trustForwarded))))) := by
  have hrun := h 1 1 (.whole 0) calls (pairwise_time htime)
  rwa [decisionsOn_eq _ _ _ (pairwise_time htime),
    decisionsOn_eq _ _ _ (pairwise_time fun c hc => htime c (List.mem_filter.1 hc).1),
    filter_map_arrival] at hrun

/-- What is decided about the first client of a chain changes if the client next to the chain has
been admitted. -/
lemma onlyOf_ledger_meddling_ne (trustForwarded : Bool) (client : String) (n : ℕ) :
    onlyOf client (ledger (single trustForwarded)
        ((arrivalOf "/" (generationKey^[n + 1] client)).charges .admitted)
        ((chainOf client (n + 1)).map (arrivalOf generationPath))) ≠
      onlyOf client (ledger (single trustForwarded) []
        ((chainOf client (n + 1)).map (arrivalOf generationPath))) := by
  set first := arrivalOf "/" (generationKey^[n + 1] client)
  have hfree : ∀ m ≤ n, chargesTo (generationKey^[m] client) (first.charges .admitted) = [] :=
    fun m hm => chargesTo_charges_of_lt (Nat.lt_succ_of_le hm) rfl _
  have hlast : chargesTo (generationKey^[n + 1] client) (first.charges .admitted) = [.whole 0] :=
    chargesTo_client_charges first .admitted
  rw [ledger_chainOf trustForwarded n (first.charges .admitted) true hfree (by rw [hlast]; rfl),
    ledger_chainOf trustForwarded n [] false (fun _ _ => rfl) rfl]
  have hinj : Function.Injective not^[n] := Bool.involutive_not.injective.iterate n
  have hne : not^[n] true ≠ not^[n] false := fun heq => Bool.noConfusion (hinj heq)
  cases htrue : not^[n] true <;> cases hfalse : not^[n] false <;> simp_all

/-- A client along the chain has a bearing on what is decided about its first client. -/
theorem not_isIsolated_iterate (trustForwarded : Bool) (client : String) (n : ℕ) :
    ¬IsIsolated trustForwarded client (generationKey^[n] client) := by
  intro h
  have hrun := h.onlyOf_ledger (meddling client n) fun c => time_of_mem_meddling
  rw [map_arrival_meddling, without_cons_of_eq (client_arrivalOf _ _), without_chainOf, ledger,
    judge_first, List.nil_append] at hrun
  cases n with
  | zero =>
    rw [Function.iterate_zero_apply, onlyOf_cons_of_eq (client_arrivalOf _ _)] at hrun
    exact List.cons_ne_nil _ _ hrun
  | succ n =>
    have hskip : (arrivalOf "/" (generationKey^[n + 1] client)).client ≠ client :=
      iterate_generationKey_ne client n.succ_pos
    rw [onlyOf_cons_of_ne hskip] at hrun
    exact onlyOf_ledger_meddling_ne trustForwarded client n hrun

/-- A client has a bearing on what is decided about the one that is named like its generator key. -/
theorem not_isIsolated_generationKey (trustForwarded : Bool) (client : String) :
    ¬IsIsolated trustForwarded (generationKey client) client := by
  intro h
  have hne := generationKey_ne client
  have hrun := h.onlyOf_ledger [callFrom generationPath client, callFrom "/" (generationKey client)]
    (by simp [callFrom])
  set first := arrivalOf generationPath client
  change onlyOf _ (ledger (single trustForwarded) []
      [first, arrivalOf "/" (generationKey client)]) =
    onlyOf _ (ledger (single trustForwarded) [] (without client
      [first, arrivalOf "/" (generationKey client)])) at hrun
  have hfirst : judge (single trustForwarded) [] first = .admitted :=
    judge_arrivalOf_generation trustForwarded false rfl rfl
  have hgen : isGeneration generationPath = true := by decide
  have hkey : chargesTo (generationKey client) (first.charges .admitted) = [.whole 0] :=
    (chargesTo_generationKey_charges first .admitted).trans
      (if_pos ⟨ne_healthPath_of_isGeneration hgen, hgen, by decide⟩)
  have hnext : chargesTo (generationKey (generationKey client)) (first.charges .admitted) = [] :=
    chargesTo_charges_of_ne (iterate_generationKey_ne client Nat.two_pos).symm
      (generationKey_ne (generationKey client)).symm .admitted
  have hsecond : judge (single trustForwarded) (first.charges .admitted)
      (arrivalOf "/" (generationKey client)) = .generalRefused := by
    rw [judge_arrivalOf trustForwarded false true "/" hnext hkey]
    rfl
  rw [without_cons_of_eq (client_arrivalOf _ _), without_cons_of_ne hne, ledger, ledger, ledger,
    ledger, hfirst, List.nil_append, hsecond, judge_first, onlyOf_cons_of_ne hne.symm,
    onlyOf_cons_of_eq (client_arrivalOf _ _), onlyOf_cons_of_eq (client_arrivalOf _ _)] at hrun
  exact absurd hrun (by simp)

/-- What is decided about the requests of a client is independent of another one unless this is the
same, or its generator key is the name of the client, or it is one of the chain of clients that
begins with the client, of which each is named like the generator key of the one before. -/
theorem isIsolated_iff (trustForwarded : Bool) (client other : String) :
    IsIsolated trustForwarded client other ↔
      client ≠ generationKey other ∧ ∀ n, other ≠ generationKey^[n] client := by
  constructor
  · intro h
    constructor
    · rintro rfl
      exact not_isIsolated_generationKey trustForwarded other h
    · rintro n rfl
      exact not_isIsolated_iterate trustForwarded client n h
  · rintro ⟨hkey, hchain⟩
    exact isIsolated_of_ne trustForwarded hchain hkey

end ControlSurface.Limiter
