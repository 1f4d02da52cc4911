import LossPrevention.Classifier.Luhn
import LossPrevention.Condition.Equality
import LossPrevention.Condition.Operator
import LossPrevention.Event.FieldPath
import LossPrevention.Json.Printer
import LossPrevention.Pattern.Compile
import LossPrevention.Pattern.Reach

/-!
What a leaf of a condition asks of the value at its field. An absent field meets nothing but the
demand to be absent, and a value of the wrong kind is no error but a demand that is not met.
-/

namespace LossPrevention.Condition

open Json (Number Value)

inductive Fault where
  | unknownOperator (operator field : String)
  | path (fault : FieldPath.Fault)
  | valueRequired (operator : Operator)
  | patternRequired
  | badPattern (pattern : String) (fault : Pattern.Fault)
  deriving DecidableEq

def Fault.message (words : Complaints) : Fault → String
  | unknownOperator operator field =>
      "unknown operator '" ++ operator ++ "' on field '" ++ field ++ "'"
  | path fault => fault.message
  | valueRequired operator => "operator '" ++ operator.name ++ "' requires a value"
  | patternRequired => "operator 'regex' requires a string pattern"
  | badPattern pattern .malformed =>
      "invalid regex pattern '" ++ pattern ++ "': " ++ words.pattern pattern
  | badPattern pattern .tooLarge =>
      "invalid regex pattern '" ++ pattern ++ "': Compiled regex exceeds size limit of " ++
        toString Pattern.Room.limit ++ " bytes."

inductive Predicate where
  | eq (literal : Value)
  | ne (literal : Value)
  | gt (bound : Number)
  | ge (bound : Number)
  | lt (bound : Number)
  | le (bound : Number)
  | contains (needle : Value)
  | notContains (needle : Value)
  | isIn (options : List Value)
  | notIn (options : List Value)
  | regex (pattern : Pattern)
  | present
  | absent
  | luhn
  /-- The literal does not fit the operator, so nothing meets it. -/
  | never (operator : Operator)

namespace Predicate

def operator : Predicate → Operator
  | eq _ => .eq
  | ne _ => .ne
  | gt _ => .gt
  | ge _ => .ge
  | lt _ => .lt
  | le _ => .le
  | contains _ => .contains
  | notContains _ => .notContains
  | isIn _ => .isIn
  | notIn _ => .notIn
  | regex _ => .regex
  | present => .present
  | absent => .absent
  | luhn => .luhn
  | never op => op

/-- The demand for an order, if the literal is a number. -/
def bounded (op : Operator) (make : Number → Predicate) (literal : Option Value) : Predicate :=
  match literal.bind Value.asNumber? with
  | some n => make n
  | none => never op

def listed (op : Operator) (make : List Value → Predicate) (literal : Option Value) : Predicate :=
  match literal.bind Value.asList? with
  | some items => make items
  | none => never op

def ofPattern (pattern : String) : Except Fault Predicate :=
  match Pattern.ofText pattern with
  | .ok p => .ok (regex p)
  | .error fault => .error (.badPattern pattern fault)

/-- The demand of an operator with its literal. -/
def compile (op : Operator) (literal : Option Value) : Except Fault Predicate :=
  match op with
  | .eq => .ok (eq (literal.getD .null))
  | .ne => .ok (ne (literal.getD .null))
  | .gt => .ok (bounded op gt literal)
  | .ge => .ok (bounded op ge literal)
  | .lt => .ok (bounded op lt literal)
  | .le => .ok (bounded op le literal)
  | .contains =>
      match literal with
      | some v => .ok (contains v)
      | none => .error (.valueRequired op)
  | .notContains =>
      match literal with
      | some v => .ok (notContains v)
      | none => .error (.valueRequired op)
  | .isIn => .ok (listed op isIn literal)
  | .notIn => .ok (listed op notIn literal)
  | .regex =>
      match literal with
      | some (.text pattern) => ofPattern pattern
      | _ => .error .patternRequired
  | .present => .ok present
  | .absent => .ok absent
  | .luhn => .ok luhn

/-- Whether the characters occur one behind the other. -/
def isPart (needle : List Char) : List Char → Bool
  | [] => needle.isEmpty
  | c :: cs => needle.isPrefixOf (c :: cs) || isPart needle cs

/-- Part of a text, or member of a list; undecided for anything else. -/
def holds? (haystack needle : Value) : Option Bool :=
  match haystack with
  | .text s => needle.asText?.map (fun n => isPart n.toList s.toList)
  | .list items => some (items.any (fun item => item.equal needle))
  | _ => none

def compares (test : Int → Bool) (v : Value) : Bool :=
  v.asNumber?.any (fun n => test n.rank)

/-- The text that a pattern looks at: a text itself, anything else as compact JSON. -/
def subject : Value → List Char
  | .text s => s.toList
  | v => v.chars

def checksumHolds : Value → Bool
  | .text s => Classifier.Luhn.valid s.toList
  | .number n => n.toWord?.any (fun w => Classifier.Luhn.valid (Nat.toDigits 10 w))
  | _ => false

def testValue (p : Predicate) (v : Value) : Bool :=
  match p with
  | eq literal => v.equal literal
  | ne literal => !v.equal literal
  | gt bound => compares (fun r => bound.rank < r) v
  | ge bound => compares (fun r => bound.rank ≤ r) v
  | lt bound => compares (fun r => r < bound.rank) v
  | le bound => compares (fun r => r ≤ bound.rank) v
  | contains needle => (holds? v needle).getD false
  | notContains needle => ((holds? v needle).map (! ·)).getD false
  | isIn options => options.any (fun o => v.equal o)
  | notIn options => !options.any (fun o => v.equal o)
  | regex pattern => pattern.isMatch (subject v)
  | present => true
  | absent => false
  | luhn => checksumHolds v
  | never _ => false

/-- Whether the value at a field meets the demand; the field may be absent. -/
def test (p : Predicate) : Option Value → Bool
  | none => match p with
    | absent => true
    | _ => false
  | some v => p.testValue v

end Predicate

end LossPrevention.Condition
