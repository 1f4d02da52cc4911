import LossPrevention.Text.Digits

/-!
The Luhn checksum of card numbers. Counted from the right, every second digit is doubled, with
the digits of the double added up, and the sum of all has to be a multiple of ten.
-/

namespace LossPrevention.Classifier.Luhn

/-- Spaces and dashes may stand anywhere in a number. -/
def isSeparator (c : Char) : Bool := c = ' ' || c = '-'

def double (d : Nat) : Nat := if 9 < 2 * d then 2 * d - 9 else 2 * d

/-- The sum of digits of which the first counts as `doubled` says. -/
def weightedSum : Bool → List Nat → Nat
  | _, [] => 0
  | doubled, d :: ds => (if doubled then double d else d) + weightedSum (!doubled) ds

def digitsValid (ds : List Nat) : Bool :=
  !ds.isEmpty && weightedSum false ds.reverse % 10 = 0

/-- A number with its separators; any other sign makes it invalid. -/
def valid (number : List Char) : Bool :=
  let kept := number.filter (fun c => !isSeparator c)
  kept.all Char.isDigit && digitsValid (kept.map Text.digitValue)

end LossPrevention.Classifier.Luhn
