/-!
# Phases

The regions of a header to which peripherals contribute code, in the order in which they appear.
-/

namespace ControlSurface

/-- A region of the generated header. -/
inductive Phase where
  | inclusion
  | declaration
  | initialization
  | processing
deriving DecidableEq, Repr

namespace Phase

/-- The phases in the order of the header. -/
def all : List Phase := [.inclusion, .declaration, .initialization, .processing]

/-- How a phase is called. -/
def name : Phase → String
  | .inclusion => "include"
  | .declaration => "declaration"
  | .initialization => "initialization"
  | .processing => "processing"

/-- The phase of a name. -/
def ofName? (s : String) : Option Phase := all.find? fun p => p.name = s

theorem ofName?_name (p : Phase) : ofName? p.name = some p := by cases p <;> rfl

theorem mem_all (p : Phase) : p ∈ all := by cases p <;> decide

instance (q : Phase → Prop) [DecidablePred q] : Decidable (∀ p, q p) :=
  decidable_of_iff (∀ p ∈ all, q p) ⟨fun h p => h p (mem_all p), fun h p _ => h p⟩

end Phase

end ControlSurface
