import ControlSurface.Keyed
import ControlSurface.Service.Clock
import ControlSurface.Text.Blank

/-!
# The rate limiter

Requests are charged to keys, and a key may bear a limited number of charges in any minute. Every
request is charged to its client; one that runs the generator is charged to a key of its own first.
Charges are readings of the clock. Those that no longer count are dropped when their key is next
tried, and now and then all keys that have had no charge for a minute are forgotten.
-/

namespace ControlSurface.Limiter

/-- How many requests per minute are admitted, and whether a proxy is trusted to name the client. -/
structure Limits where
  general : Int := 60
  generation : Int := 20
  trustForwarded : Bool := false
deriving DecidableEq, Repr

/-- The charges of each key in the order of their times, and the time of the last cleanup. -/
structure State where
  charges : List (String × List Seconds)
  lastCleanup : Seconds
deriving DecidableEq, Repr

/-- The state of a limiter that starts at some time. -/
def State.start (now : Seconds) : State := ⟨[], now⟩

/-- How long a charge counts. -/
def window : Seconds := .whole 60

/-- How long it takes at least from one cleanup to the next. -/
def cleanupPeriod : Seconds := .whole 300

/-- The charges of a key. -/
def State.chargesOf (s : State) (key : String) : List Seconds := (s.charges.lookup key).getD []

/-- The charges that still count at a time. -/
def recent (now : Seconds) (charges : List Seconds) : List Seconds :=
  charges.filter fun t => (now.minus window).isBelow t

/-- Charges a key unless it bears as many charges as its limit allows, and tells whether it has been
charged. Either way, charges that no longer count are dropped. -/
def charge (s : State) (key : String) (limit : Int) (now : Seconds) : Bool × State :=
  let kept := recent now (s.chargesOf key)
  if limit ≤ kept.length then (false, { s with charges := Keyed.put key kept s.charges })
  else (true, { s with charges := Keyed.put key (kept ++ [now]) s.charges })

@[simp] theorem mem_recent {now t : Seconds} {charges : List Seconds} :
    t ∈ recent now charges ↔ t ∈ charges ∧ (now.minus window).isBelow t := by
  simp [recent]

@[simp] theorem chargesOf_put (s : State) (key k : String) (kept : List Seconds) :
    State.chargesOf { s with charges := Keyed.put key kept s.charges } k =
      if k = key then kept else s.chargesOf k := by
  by_cases hk : k = key <;> simp [State.chargesOf, Keyed.lookup_put, hk]

/-- A trial of one key leaves the charges of all others as they are. -/
theorem chargesOf_charge (s : State) (key k : String) (limit : Int) (now : Seconds) :
    (charge s key limit now).2.chargesOf k =
      if k = key then
        recent now (s.chargesOf key) ++ if (charge s key limit now).1 then [now] else []
      else s.chargesOf k := by
  by_cases hl : limit ≤ (recent now (s.chargesOf key)).length
  · simp [charge, hl]
  · simp [charge, hl]

/-- Whether a key has had no charge for a minute. -/
def isStale (now : Seconds) (charges : List Seconds) : Bool :=
  match charges.getLast? with
  | none => true
  | some last => last.isBelow (now.minus window)

/-- Forgets stale keys, if the last time this was done lies far enough back. -/
def sweep (s : State) (now : Seconds) : State :=
  if (now.minus s.lastCleanup).isBelow cleanupPeriod then s
  else { charges := s.charges.filter fun p => !isStale now p.2, lastCleanup := now }

/-! ### Requests -/

/-- The client that a request is charged to: the first one that a trusted proxy names, otherwise the
host it came from. -/
def clientOf (limits : Limits) (forwarded host : Option String) : String :=
  let direct := host.getD "unknown"
  match forwarded with
  | some hops =>
    if limits.trustForwarded && hops ≠ "" then
      Text.trim (String.ofList (hops.toList.takeWhile (· ≠ ',')))
    else direct
  | none => direct

/-- The path below which the generator is run. -/
def generationPath : String := "/api/generate-hardware"

/-- The path that is never limited. -/
def healthPath : String := "/api/health"

/-- Whether a path runs the generator. -/
def isGeneration (path : String) : Bool := generationPath.toList.isPrefixOf path.toList

/-- The key that a client's use of the generator is charged to. -/
def generationKey (client : String) : String := client ++ ":generate"

/-- A request as the limiter sees it. -/
structure Arrival where
  client : String
  path : String
  time : Seconds
deriving DecidableEq, Repr

/-- What is decided about a request. -/
inductive Verdict where
  | admitted
  | generationRefused
  | generalRefused
deriving DecidableEq, Repr

/-- Charges a request to its client. -/
def admitGeneral (limits : Limits) (s : State) (r : Arrival) : Verdict × State :=
  let (charged, s) := charge s r.client limits.general r.time
  (if charged then .admitted else .generalRefused, s)

/-- Decides about a request. A request that runs the generator and is refused for the general limit
has already been charged for the generator. -/
def step (limits : Limits) (s : State) (r : Arrival) : Verdict × State :=
  if r.path = healthPath then (.admitted, s)
  else
    let s := sweep s r.time
    if isGeneration r.path then
      let (charged, s) := charge s (generationKey r.client) limits.generation r.time
      if charged then admitGeneral limits s r else (.generationRefused, s)
    else admitGeneral limits s r

/-- The answer to a refused request. -/
def Verdict.detail? : Verdict → Option String
  | .admitted => none
  | .generationRefused =>
    some "Generation rate limit exceeded. Please wait before trying again."
  | .generalRefused => some "Rate limit exceeded. Please wait before trying again."

/-- Decides about requests one after the other. -/
def run (limits : Limits) : State → List Arrival → List Verdict × State
  | s, [] => ([], s)
  | s, r :: rest =>
    let (verdict, s) := step limits s r
    let (verdicts, s) := run limits s rest
    (verdict :: verdicts, s)

end ControlSurface.Limiter
