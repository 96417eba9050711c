import ControlSurface.Schema.Issue

/-!
# Records

A record declares some fields of an object and leaves it free to hold others. All declared fields
may be missing or null. A record is normalized: declared fields come first, in the order of their
declaration and under one spelling, then the other fields as they are; nulls are left out.
-/

namespace ControlSurface.Schema

variable {τ : Type}

/-- A field of a record. It may be given under a second name, which then is its proper spelling. -/
structure Field (τ : Type) where
  name : String
  alias? : Option String
  type : τ

/-- A field with one name. -/
def Field.plain (name : String) (type : τ) : Field τ := ⟨name, none, type⟩

/-- The spelling of a field in a normalized record. -/
def Field.spelling (f : Field τ) : String := f.alias?.getD f.name

/-- The key under which an object gives a field: its proper spelling if that occurs, otherwise its
name. -/
def Field.keyIn? (f : Field τ) (fields : List (String × Value)) : Option String :=
  [f.spelling, f.name].find? fun key => (fields.lookup key).isSome

/-- The declared part of an object. The title names the record in messages. -/
structure Record (τ : Type) where
  title : String
  fields : List (Field τ)

namespace Record

variable (check : τ → Value → Checked Value)

/-- A declared field of an object, checked and under its proper spelling, if it is there. -/
def normalizeField (given : List (String × Value)) (f : Field τ) :
    Checked (Option (String × Value)) :=
  match f.keyIn? given with
  | none => .ok none
  | some key =>
    match (given.lookup key).getD .null with
    | .null => .ok none
    | value =>
      (Checked.under (.key key) (check f.type value)).map fun checked => some (f.spelling, checked)

/-- The fields of an object that a record does not declare. A name that is not used because the
field has been given under its proper spelling is one of them. -/
def extras (r : Record τ) (given : List (String × Value)) : List (String × Value) :=
  let used := r.fields.filterMap fun f => f.keyIn? given
  given.filter fun p => !used.contains p.1 && !p.2.isNull

/-- The fields of a normalized object. -/
def normalizeFields (r : Record τ) (given : List (String × Value)) :
    Checked (List (String × Value)) :=
  (Checked.gather (r.fields.map (normalizeField check given))).map fun declared =>
    declared.filterMap id ++ r.extras given

/-- Checks an object against a record and normalizes it. -/
def normalize (r : Record τ) : Value → Checked Value
  | .obj given => (r.normalizeFields check given).map .obj
  | v => .problem v (.notRecord r.title)

end Record

/-- Checks every item of a list. -/
def checkList (check : Value → Checked Value) : Value → Checked Value
  | .arr items =>
    (Checked.gather (items.zipIdx.map fun (item, i) => (check item).under (.index i))).map .arr
  | v => .problem v .notList

end ControlSurface.Schema
