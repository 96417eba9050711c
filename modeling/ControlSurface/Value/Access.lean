import ControlSurface.Fault

/-!
# Reading from values

What unchecked values offer to a reader: the items of a container, their number, the field of an
object, membership. Each of these names the shape that refused it.
-/

namespace ControlSurface

namespace Value

/-- What a container holds: the items of a list, the characters of a text, the keys of an object. -/
def items? : Value → Option (List Value)
  | .arr items => some items
  | .str s => some (s.toList.map fun c => .str c.toString)
  | .obj fields => some (fields.map fun f => .str f.1)
  | _ => none

/-- The items of a value that is a container. -/
def items (v : Value) : Except Fault (List Value) :=
  match v.items? with
  | some items => .ok items
  | none => .error (.notIterable v.shape)

/-- The number of items of a value that is a container. -/
def length (v : Value) : Except Fault Nat :=
  match v.items? with
  | some items => .ok items.length
  | none => .error (.noLength v.shape)

/-- The field of an object, null if it is missing. -/
def get (v : Value) (key : String) : Except Fault Value :=
  match v with
  | .obj fields => .ok ((fields.lookup key).getD .null)
  | _ => .error (.noFields v.shape)

/-- The value itself if it counts as present, otherwise what is taken in its place. -/
def orElse (v instead : Value) : Value := if v.truthy then v else instead

/-- The items of a value, none if it does not count as present. -/
def itemsOrNone (v : Value) : Except Fault (List Value) := (v.orElse (.arr [])).items

/-- Whether a word occurs in a text. -/
def occurs (word : List Char) : List Char → Bool
  | [] => word.isEmpty
  | c :: rest => word.isPrefixOf (c :: rest) || occurs word rest

theorem occurs_iff (word s : List Char) : occurs word s = true ↔ word <:+: s := by
  induction s with
  | nil => simp [occurs]
  | cons c rest ih =>
    rw [occurs, Bool.or_eq_true, ih, List.isPrefixOf_iff_prefix, List.infix_cons_iff]

/-- Whether a container holds a text: as an item of a list, a key of an object or a part of a
text. -/
def holds (v : Value) (s : String) : Except Fault Bool :=
  match v with
  | .arr items => .ok (items.any fun | .str t => t = s | _ => false)
  | .obj fields => .ok (fields.any fun f => f.1 = s)
  | .str t => .ok (occurs s.toList t.toList)
  | _ => .error (.noMembership v.shape)

/-! ### Lists and objects -/

@[simp] theorem truthy_arr (l : List Value) : (Value.arr l).truthy = !l.isEmpty := rfl

@[simp] theorem items_arr (l : List Value) : (Value.arr l).items = .ok l := rfl

@[simp] theorem length_arr (l : List Value) : (Value.arr l).length = .ok l.length := rfl

@[simp] theorem itemsOrNone_arr (l : List Value) : (Value.arr l).itemsOrNone = .ok l := by
  cases l <;> rfl

@[simp] theorem itemsOrNone_null : Value.null.itemsOrNone = .ok [] := rfl

@[simp] theorem get_obj (fields : List (String × Value)) (key : String) :
    (Value.obj fields).get key = .ok ((fields.lookup key).getD .null) := rfl

end Value

/-- The kind that a value names. -/
def Kind.ofValue (v : Value) : Except Fault Kind :=
  match v with
  | .str s => (Kind.ofName? s).elim (.error (.unknownKind s)) .ok
  | _ => .error (.unknownKind v.text)

/-- The phase that a value names. -/
def Phase.ofValue? : Value → Option Phase
  | .str s => Phase.ofName? s
  | _ => none

/-- The phase that a request for a fragment names. -/
def Phase.ofValue (v : Value) : Except Fault Phase :=
  (Phase.ofValue? v).elim (.error (.invalidPhase v.literal)) .ok

@[simp] theorem Kind.ofValue_name (k : Kind) : Kind.ofValue (.str k.name) = .ok k := by
  cases k <;> rfl

@[simp] theorem Phase.ofValue_name (p : Phase) : Phase.ofValue (.str p.name) = .ok p := by
  cases p <;> rfl

end ControlSurface
