import ControlSurface.Generator.Bank
import ControlSurface.Generator.Display

/-!
# Generators

What each kind of peripheral contributes to each phase. A fragment is a list of lines; a kind that
has nothing for a phase, and an absence of entries, contribute no line.
-/

namespace ControlSurface

/-- A fragment of a header from the entries of a kind. -/
abbrev Generator := Value → Except Fault (List String)

/-- A generator that is asked only if there are entries. -/
def whenPresent (generate : Generator) : Generator := fun entries =>
  if entries.truthy then generate entries else .ok []

/-- The block that brings up the converter of the CV outputs: both channels together, whatever the
entries say. -/
def bringUpCvOutputs : List String :=
  bracketed "cv_outputs" [
    "DacHandle::Config dac_cfg;",
    "dac_cfg.bitdepth   = DacHandle::BitDepth::BITS_12;",
    "dac_cfg.buff_state = DacHandle::BufferState::ENABLED;",
    "dac_cfg.mode       = DacHandle::Mode::POLLING;",
    "dac_cfg.chn        = DacHandle::Channel::BOTH;",
    "seed.dac.Init(dac_cfg);",
    "seed.dac.WriteValue(DacHandle::Channel::BOTH, 0);"]

namespace Kind

/-- What a kind contributes to a phase, if it ever does. -/
def generator? (k : Kind) : Phase → Option Generator
  | .inclusion => if k = .oledDisplay then some Display.inclusions else none
  | .declaration =>
    if k = .oledDisplay then some (whenPresent Display.declare)
    else k.bank?.map fun b => whenPresent b.declare
  | .initialization =>
    if k = .oledDisplay then some (whenPresent Display.bringUp)
    else if k = .cvOutput then some (whenPresent fun _ => .ok bringUpCvOutputs)
    else k.bank?.map fun b => whenPresent b.bringUp
  | .processing => k.bank?.bind fun b => b.service?.map fun m => whenPresent (b.serviceAll m)

/-- The phases that a kind can contribute to. -/
def phases (k : Kind) : List Phase := Phase.all.filter fun p => (k.generator? p).isSome

/-- The lines that a kind contributes to a phase. -/
def fragmentLines (k : Kind) (p : Phase) : Generator := (k.generator? p).getD fun _ => .ok []

/-- The struct members that the entries of a kind introduce, labels left aside. -/
def members (k : Kind) (entries : Value) : Except Fault (List String) :=
  if k = .oledDisplay then Display.names entries
  else .ok (match k.bank? with
    | some b => if entries.truthy then b.members else []
    | none => [])

end Kind

/-- A fragment as text. -/
def fragmentText (lines : List String) : String := "\n".intercalate lines

/-! ### Requests for one fragment -/

/-- The fragment that a kind contributes to a phase for a list of entries, when all three may be any
value. The kind is settled first, then the phase, then the entries. -/
def fragment (kind entries phase : Value) : Except Fault String := do
  let k ← Kind.ofValue kind
  let p ← Phase.ofValue phase
  let items ← entries.itemsOrNone
  return fragmentText (← k.fragmentLines p (.arr items))

/-- The fragment of a kind for a phase and entries that are handed to its generator as they are. -/
def rawFragment (kind entries phase : Value) : Except Fault String := do
  let k ← Kind.ofValue kind
  match Phase.ofValue? phase with
  | none => throw (.unknownPhase phase.text)
  | some p => return fragmentText (← k.fragmentLines p entries)

/-- The members that a kind introduces for entries that are any value. -/
def rawMembers (kind entries : Value) : Except Fault (List String) := do
  (← Kind.ofValue kind).members entries

end ControlSurface
