import ControlSurface.Value

/-!
# Issues

What keeps a value from fitting a schema, and where in the value. A check reports every issue it
finds, in the order of the schema.
-/

namespace ControlSurface.Schema

/-- One step down into a value. -/
inductive Step where
  | key (name : String)
  | index (i : Nat)
deriving DecidableEq, Repr

/-- What is wrong with a part of a value. -/
inductive Problem where
  | missing
  | unreadable
  | notRecord (title : String)
  | notList
  | notText
  | notFlag
  | unreadableFlag
  | notInteger
  | fractional
  | notFinite
  | integerTooLarge
  | tooShort (least : Nat)
  | tooLong (most : Nat)
  | patternMismatch (pattern : String)
deriving DecidableEq, Repr

/-- A problem and the way to the part that has it. The subject is that part, or what a missing part
is missing from. -/
structure Issue where
  path : List Step
  problem : Problem
  subject : Value

/-- Where a checked value came from: a document of its own, or the body of a request, of which only
the fields are looked at. -/
inductive Origin where
  | document
  | body
deriving DecidableEq, Repr

/-- The code that stands for a problem. -/
def Problem.code (origin : Origin) : Problem → String
  | .missing => "missing"
  | .unreadable => "json_invalid"
  | .notRecord _ => match origin with
    | .document => "model_type"
    | .body => "model_attributes_type"
  | .notList => "list_type"
  | .notText => "string_type"
  | .notFlag => "bool_type"
  | .unreadableFlag => "bool_parsing"
  | .notInteger => "int_type"
  | .fractional => "int_from_float"
  | .notFinite => "finite_number"
  | .integerTooLarge => "int_parsing_size"
  | .tooShort _ => "string_too_short"
  | .tooLong _ => "string_too_long"
  | .patternMismatch _ => "string_pattern_mismatch"

/-- A number of characters in words. -/
def characters (n : Nat) : String := s!"{n} " ++ if n = 1 then "character" else "characters"

/-- The wording of a problem. -/
def Problem.message (origin : Origin) : Problem → String
  | .missing => "Field required"
  | .unreadable => "JSON decode error"
  | .notRecord title => match origin with
    | .document => s!"Input should be a valid dictionary or instance of {title}"
    | .body => "Input should be a valid dictionary or object to extract fields from"
  | .notList => "Input should be a valid list"
  | .notText => "Input should be a valid string"
  | .notFlag => "Input should be a valid boolean"
  | .unreadableFlag => "Input should be a valid boolean, unable to interpret input"
  | .notInteger => "Input should be a valid integer"
  | .fractional => "Input should be a valid integer, got a number with a fractional part"
  | .notFinite => "Input should be a finite number"
  | .integerTooLarge => "Unable to parse input string as an integer, exceeded maximum size"
  | .tooShort least => "String should have at least " ++ characters least
  | .tooLong most => "String should have at most " ++ characters most
  | .patternMismatch pattern => s!"String should match pattern '{pattern}'"

/-- The issue seen from one step further out. -/
def Issue.under (step : Step) (issue : Issue) : Issue := { issue with path := step :: issue.path }

/-! ### Checks -/

/-- The outcome of a check: what was made of the value, or every issue. -/
abbrev Checked (α : Type) := Except (List Issue) α

namespace Checked

variable {α β : Type}

/-- A check that found one problem with the value itself. -/
def problem (v : Value) (p : Problem) : Checked α := .error [⟨[], p, v⟩]

/-- The outcome seen from one step further out. -/
def under (step : Step) (c : Checked α) : Checked α := c.mapError (List.map (Issue.under step))

/-- Two outcomes as one. -/
def both : Checked α → Checked β → Checked (α × β)
  | .ok a, .ok b => .ok (a, b)
  | .ok _, .error e => .error e
  | .error e, .ok _ => .error e
  | .error e, .error e' => .error (e ++ e')

/-- All outcomes of a list as one. -/
def gather (checks : List (Checked α)) : Checked (List α) :=
  checks.foldr (fun c rest => (both c rest).map fun (a, as) => a :: as) (.ok [])

@[simp] theorem gather_nil : gather ([] : List (Checked α)) = .ok [] := rfl

@[simp] theorem gather_cons (c : Checked α) (rest : List (Checked α)) :
    gather (c :: rest) = (both c (gather rest)).map fun (a, as) => a :: as := rfl

/-- All outcomes are there if each one is. -/
theorem gather_map_ok (l : List α) : gather (l.map (Except.ok : α → Checked α)) = .ok l := by
  induction l with
  | nil => rfl
  | cons a as ih => simp [ih, both, Except.map]

end Checked

end ControlSurface.Schema
