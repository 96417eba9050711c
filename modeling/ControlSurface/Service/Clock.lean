import ControlSurface.Numeric.Binary64

/-!
# Readings of a clock

The clock tells seconds, whole ones or in double precision. Whole seconds are reckoned with exactly,
and everything else is rounded to double precision.
-/

namespace ControlSurface

/-- A number of seconds: a reading of the clock, or the time between two of them. -/
inductive Seconds where
  | whole (n : Int)
  | double (x : Binary64)
deriving DecidableEq, Repr

namespace Seconds

/-- A number of seconds in double precision. -/
def toDouble : Seconds → Binary64
  | .whole n => .ofInt n
  | .double x => x

/-- The time from a second reading to a first. -/
def minus : Seconds → Seconds → Seconds
  | .whole m, .whole n => .whole (m - n)
  | a, b => .double (a.toDouble.sub b.toDouble)

/-- Where a number of seconds stands on the line of numbers. -/
def position? : Seconds → Option (Int × Rat)
  | .whole n => some (0, n)
  | .double x => x.position?

/-- Whether a number of seconds is less than another. -/
def isBelow (a b : Seconds) : Bool :=
  match a.position?, b.position? with
  | some (i, x), some (j, y) => i < j || (i = j && x < y)
  | _, _ => false

@[simp] theorem minus_whole (m n : Int) : (whole m).minus (whole n) = whole (m - n) := rfl

@[simp] theorem isBelow_whole (m n : Int) : (whole m).isBelow (whole n) = decide (m < n) := by
  simp only [isBelow, position?, Int.lt_irrefl, decide_false, Bool.false_or, decide_true,
    Bool.true_and, Rat.intCast_lt_intCast]

end Seconds

end ControlSurface
