import LossPrevention.Text.Blank

/-!
How grave an event, a policy or an alert is.
-/

namespace LossPrevention

inductive Severity where
  | low
  | medium
  | high
  | critical
  deriving DecidableEq

namespace Severity

def name : Severity → String
  | low => "low"
  | medium => "medium"
  | high => "high"
  | critical => "critical"

def ofName? : String → Option Severity
  | "low" => some low
  | "medium" => some medium
  | "high" => some high
  | "critical" => some critical
  | _ => none

/-- Reads a name in any ASCII case. -/
def parse? (text : String) : Option Severity := ofName? (Text.lowerAscii text)

@[simp] theorem ofName?_name (s : Severity) : ofName? s.name = some s := by
  cases s <;> rfl

end Severity

end LossPrevention
