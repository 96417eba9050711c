import ControlSurface.Generator

/-!
# The catalogue

What the generator understands, as it is told to those who ask.
-/

namespace ControlSurface

/-- What is told about a kind of peripheral. -/
structure Listing where
  kind : String
  description : String
  keys : List String
  phases : List String
deriving DecidableEq, Repr

/-- The listing of a kind. -/
def Kind.listing (k : Kind) : Listing where
  kind := k.name
  description := k.summary
  keys := k.keys
  phases := k.phases.map Phase.name

/-- The listings of all kinds, in the order of the struct. -/
def catalogue : List Listing := Kind.all.map Kind.listing

end ControlSurface
