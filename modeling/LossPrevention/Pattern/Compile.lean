import LossPrevention.Pattern.Reader
import LossPrevention.Pattern.Room

/-!
Patterns from text, refused when they are malformed or take too much room.
-/

namespace LossPrevention.Pattern

inductive Fault where
  | malformed
  | tooLarge
  deriving DecidableEq

/-- The pattern of a text. -/
def ofText (text : String) : Except Fault Pattern :=
  match Reader.pattern? text.toList with
  | none => .error .malformed
  | some p => if p.fits then .ok p else .error .tooLarge

end LossPrevention.Pattern
