import ControlSurface.Proofs.Entries

/-!
# Declarations of banks
-/

namespace ControlSurface

variable {entries : List Value}

namespace Bank

/-- The line that declares the array of a bank. -/
def arrayLine (b : Bank) (count : ℕ) : String := s!"{b.typeName} {b.arrayName}[{count}];"

/-- The line that binds a label to a slot. -/
def aliasLine (b : Bank) (binding : String × ℕ) : String :=
  Label.reference b.typeName b.arrayName (.str binding.1, binding.2)

/-- What a bank declares before its labels. -/
def declarationHead (b : Bank) (count : ℕ) : List String :=
  [s!"// {b.arrayName} declaration", b.arrayLine count] ++ b.shortcuts.map b.shortcutLine

lemma declare_eq (b : Bank) (h : ∀ e ∈ entries, Label.IsLabelled e) :
    b.declare (.arr entries) =
      .ok (b.declarationHead entries.length ++ (Label.aliases entries).map b.aliasLine) := by
  rw [declare, Label.references, Label.bindings_eq h]
  simp [declarationHead, arrayLine, aliasLine, pure, Except.pure, bind, Except.bind,
    Function.comp_def]

end Bank

namespace Kind

/-- The lines that declare the bank of a kind, if it has one, and there are any entries. -/
def declarationLines (k : Kind) (entries : List Value) : List String :=
  match k.bank? with
  | some b =>
    if entries.isEmpty then []
    else b.declarationHead entries.length ++ (Label.aliases entries).map b.aliasLine
  | none => []

lemma whenPresent_eq {generate : Generator} {lines : List String}
    (h : generate (.arr entries) = .ok lines) :
    whenPresent generate (.arr entries) = .ok (if entries.isEmpty then [] else lines) := by
  rw [whenPresent, Value.truthy_arr, h]
  cases entries <;> rfl

/-- A kind with a bank is not that of the displays, which are no bank. -/
lemma ne_oledDisplay_of_bank? {k : Kind} {b : Bank} (h : k.bank? = some b) :
    k ≠ .oledDisplay := by
  rintro rfl
  cases h

theorem fragmentLines_declaration {k : Kind} (hk : k ≠ .oledDisplay)
    (h : ∀ e ∈ entries, k.bank?.isSome → Label.IsLabelled e) :
    k.fragmentLines .declaration (.arr entries) = .ok (k.declarationLines entries) := by
  rw [fragmentLines, generator?, if_neg hk, declarationLines]
  cases hb : k.bank? with
  | none => rfl
  | some b => exact whenPresent_eq (b.declare_eq fun e he => h e he (by rw [hb]; rfl))

end Kind

end ControlSurface
