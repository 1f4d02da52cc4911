import LossPrevention.Text.Blank
import LossPrevention.Text.Digits

/-!
The lengths of sliding windows, in seconds. A length is written as a number of seconds or as a
number with one of the units `s`, `m`, `h` and `d`, and is below `2 ^ 64` seconds.
-/

namespace LossPrevention.Window

/-- What a length that cannot be read stands for. -/
def fallback : Nat := 300

def limit : Nat := Nat.pow 2 64

def bounded? (n : Nat) : Option Nat := if n < limit then some n else none

/-- A number of seconds; a plus sign may lead it. -/
def plain? (cs : List Char) : Option Nat :=
  let ds := match cs with
    | '+' :: rest => rest
    | _ => cs
  if ds.isEmpty || !ds.all Char.isDigit then none else bounded? (Text.digitsValue ds)

def unitSeconds? : Char → Option Nat
  | 's' => some 1
  | 'm' => some 60
  | 'h' => some 3600
  | 'd' => some 86400
  | _ => none

/-- Digits, white space and a unit. -/
def withUnit? (cs : List Char) : Option Nat := do
  let (ds, rest) := cs.span Char.isDigit
  if ds.isEmpty then none
  match rest.dropWhile Text.isBlank with
  | [u] =>
      let seconds ← unitSeconds? u
      let n ← bounded? (Text.digitsValue ds)
      bounded? (n * seconds)
  | _ => none

def parse? (text : String) : Option Nat :=
  let cs := Text.trimChars text.toList
  (plain? cs).orElse fun _ => withUnit? cs

def parse (text : String) : Nat := (parse? text).getD fallback

end LossPrevention.Window
