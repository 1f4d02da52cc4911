import LossPrevention.Json.Value

/-!
When a condition takes two values for the same. Numbers that stand at the same place among the
binary numbers are equal, in lists too; inside objects an integer and a float are never equal.
-/

namespace LossPrevention.Json

namespace Number

def identical : Number → Number → Bool
  | int m, int n => m = n
  | float x, float y => Binary64.rank x = Binary64.rank y
  | _, _ => false

end Number

namespace Value

mutual

def identical : Value → Value → Bool
  | null, null => true
  | bool a, bool b => a = b
  | number m, number n => m.identical n
  | text s, text t => s = t
  | list xs, list ys => identicalItems xs ys
  | object fs, object gs => identicalFields fs gs
  | _, _ => false

def identicalItems : List Value → List Value → Bool
  | [], [] => true
  | x :: xs, y :: ys => identical x y && identicalItems xs ys
  | _, _ => false

def identicalFields : List (String × Value) → List (String × Value) → Bool
  | [], [] => true
  | (k, v) :: fs, (l, w) :: gs => k = l && identical v w && identicalFields fs gs
  | _, _ => false

end

mutual

def equal : Value → Value → Bool
  | number m, number n => m.rank = n.rank
  | list xs, list ys => equalItems xs ys
  | a, b => identical a b

def equalItems : List Value → List Value → Bool
  | [], [] => true
  | x :: xs, y :: ys => equal x y && equalItems xs ys
  | _, _ => false

end

end Value

end LossPrevention.Json
