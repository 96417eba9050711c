/-!
# Numbers from digits

The number that digits in some base stand for. Digits are joined two by two to digits of the squared
base until there is only one, so that even very many digits take few multiplications of large
numbers.
-/

namespace ControlSurface.Digits

/-- Digits in a base, least first, as digits in its square; `done` are those that have been joined
already, last one first. -/
def joinPairs (base : Nat) (done : List Nat) : List Nat → List Nat
  | low :: high :: rest => joinPairs base ((low + base * high) :: done) rest
  | rest => done.reverse ++ rest

theorem length_joinPairs (base : Nat) (done digits : List Nat) :
    2 * (joinPairs base done digits).length ≤ 2 * done.length + digits.length + 1 := by
  fun_induction joinPairs base done digits with
  | case1 done low high rest ih =>
    simp at ih ⊢
    omega
  | case2 done rest h =>
    match rest, h with
    | [], _ => simp
    | [_], _ => simp; omega
    | _ :: _ :: _, h => exact absurd rfl (h _ _ _)

/-- The number of digits in a base, least first. -/
def value (base : Nat) (digits : List Nat) : Nat :=
  match digits with
  | [] => 0
  | [digit] => digit
  | low :: high :: rest => value (base * base) (joinPairs base [] (low :: high :: rest))
termination_by digits.length
decreasing_by
  have := length_joinPairs base [] (low :: high :: rest)
  simp at *
  omega

/-! ### Place values -/

/-- Joining keeps the sum of the digits, each counted by its place. -/
theorem foldr_joinPairs (base : Nat) (done digits : List Nat) :
    (joinPairs base done digits).foldr (fun digit n => digit + base * base * n) 0 =
      done.reverse.foldr (fun digit n => digit + base * base * n)
        (digits.foldr (fun digit n => digit + base * n) 0) := by
  fun_induction joinPairs base done digits with
  | case1 done low high rest ih =>
    rw [ih, List.reverse_cons, List.foldr_append]
    simp [Nat.mul_add, Nat.add_assoc, Nat.mul_assoc]
  | case2 done rest h =>
    match rest, h with
    | [], _ => simp
    | [_], _ => simp
    | _ :: _ :: _, h => exact absurd rfl (h _ _ _)

/-- The number is the sum of the digits, each counted by its place. -/
theorem value_eq_foldr (base : Nat) (digits : List Nat) :
    value base digits = digits.foldr (fun digit n => digit + base * n) 0 := by
  fun_induction value base digits with
  | case1 => rfl
  | case2 => simp
  | case3 base low high rest ih => rw [ih, foldr_joinPairs]; rfl

end ControlSurface.Digits
