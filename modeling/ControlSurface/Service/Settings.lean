import ControlSurface.Service.Limiter
import ControlSurface.Text.Numeral

/-!
# Settings

What can be set from outside when the service starts.
-/

namespace ControlSurface.Service

/-- The settings of the service: the address of the frontend, if it has one, and the limits. -/
structure Settings where
  frontend? : Option String
  limits : Limiter.Limits

namespace Settings

/-- The integer that a variable is set to, or a default if it is not set. -/
def intOr (environment : List (String × String)) (name : String) (default : Int) :
    Except Text.NumeralError Int :=
  match environment.lookup name with
  | some text => Text.readInt text
  | none => .ok default

/-- Whether a word means yes. Only ASCII letters can differ in case from these words. -/
def isYes (word : String) : Bool := ["1", "true", "yes"].contains word.toLower

/-- The settings that an environment gives. The general limit is read first. -/
def ofVariables (environment : List (String × String)) : Except Text.NumeralError Settings := do
  let general ← intOr environment "RATE_LIMIT_PER_MINUTE" 60
  let generation ← intOr environment "GENERATE_RATE_LIMIT_PER_MINUTE" 20
  let trustForwarded := isYes ((environment.lookup "TRUST_FORWARDED_FOR").getD "false")
  let frontend? := (environment.lookup "FRONTEND_URL").filter (· ≠ "")
  return { frontend?, limits := { general, generation, trustForwarded } }

end Settings

end ControlSurface.Service
