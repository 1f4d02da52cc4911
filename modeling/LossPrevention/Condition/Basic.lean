import LossPrevention.Condition.Predicate
import LossPrevention.Condition.Spec

/-!
Conditions ready for use, and what they say of an event. `Condition.compile` fails on the first
leaf, in the order written, that cannot be used.
-/

namespace LossPrevention

open Json (Value)

inductive Condition where
  | all (children : List Condition)
  | any (children : List Condition)
  | not (child : Condition)
  | leaf (field : FieldPath) (predicate : Condition.Predicate)

namespace Condition

def Fault.failure (words : Complaints) (f : Fault) : Failure := ⟨.policy, f.message words⟩

def compileLeaf (field operator : String) (value : Option Value) : Except Fault Condition :=
  match Operator.parse? operator with
  | none => .error (.unknownOperator operator field)
  | some op =>
      match FieldPath.parse field with
      | .error fault => .error (.path fault)
      | .ok path =>
          match Predicate.compile op value with
          | .error fault => .error fault
          | .ok predicate => .ok (leaf path predicate)

mutual

def compile : Spec → Except Fault Condition
  | .all children => (compileAll children).map all
  | .any children => (compileAll children).map any
  | .not child => (compile child).map not
  | .leaf field operator value => compileLeaf field operator value

def compileAll : List Spec → Except Fault (List Condition)
  | [] => .ok []
  | s :: rest =>
      match compile s with
      | .error fault => .error fault
      | .ok c => (compileAll rest).map (c :: ·)

end

mutual

def evaluate (event : Value) : Condition → Bool
  | all children => evaluateAll event children
  | any children => evaluateAny event children
  | not child => !evaluate event child
  | leaf field predicate => predicate.test (field.resolve event)

def evaluateAll (event : Value) : List Condition → Bool
  | [] => true
  | c :: rest => evaluate event c && evaluateAll event rest

def evaluateAny (event : Value) : List Condition → Bool
  | [] => false
  | c :: rest => evaluate event c || evaluateAny event rest

end

mutual

/-- Whether there is an `all` without children somewhere, which always holds. -/
def hasEmptyAll : Condition → Bool
  | all children => children.isEmpty || anyEmptyAll children
  | any children => anyEmptyAll children
  | not child => hasEmptyAll child
  | leaf _ _ => false

def anyEmptyAll : List Condition → Bool
  | [] => false
  | c :: rest => hasEmptyAll c || anyEmptyAll rest

end

end Condition

end LossPrevention
