import LossPrevention.Text.Blank

/-!
The operators of conditions, their names and the longer names that some of them have.
-/

namespace LossPrevention.Condition

inductive Operator where
  | eq
  | ne
  | gt
  | ge
  | lt
  | le
  | contains
  | notContains
  | isIn
  | notIn
  | regex
  | present
  | absent
  | luhn
  deriving DecidableEq

namespace Operator

def name : Operator → String
  | eq => "=="
  | ne => "!="
  | gt => ">"
  | ge => ">="
  | lt => "<"
  | le => "<="
  | contains => "contains"
  | notContains => "not contains"
  | isIn => "in"
  | notIn => "not in"
  | regex => "regex"
  | present => "exists"
  | absent => "not_exists"
  | luhn => "luhn_check"

def ofName? : String → Option Operator
  | "==" | "equals" => some eq
  | "!=" | "not_equals" => some ne
  | ">" | "greater_than" => some gt
  | ">=" | "greater_equal" => some ge
  | "<" | "less_than" => some lt
  | "<=" | "less_equal" => some le
  | "contains" => some contains
  | "not contains" | "not_contains" => some notContains
  | "in" => some isIn
  | "not in" | "not_in" => some notIn
  | "regex" => some regex
  | "exists" => some present
  | "not_exists" | "not exists" => some absent
  | "luhn_check" => some luhn
  | _ => none

/-- A name with white space around it. -/
def parse? (text : String) : Option Operator := ofName? (Text.trim text)

@[simp] theorem ofName?_name (op : Operator) : ofName? op.name = some op := by
  cases op <;> rfl

end Operator

end LossPrevention.Condition
