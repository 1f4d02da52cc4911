import LossPrevention.Document.Fields

/-!
Conditions as they are written: `all`, `any` and `not` over other conditions, and comparisons of a
field. A record is read as the first of these four that it fits.
-/

namespace LossPrevention.Condition

open Json (Value)

inductive Spec where
  | all (children : List Spec)
  | any (children : List Spec)
  | not (child : Spec)
  | leaf (field operator : String) (value : Option Value)

namespace Spec

mutual

def toValue : Spec → Value
  | all children => .object [("all", .list (toValues children))]
  | any children => .object [("any", .list (toValues children))]
  | not child => .object [("not", toValue child)]
  | leaf field operator value =>
      let fields := match value with
        | some v => [("value", v)]
        | none => []
      .object (("field", .text field) :: ("operator", .text operator) :: fields)

def toValues : List Spec → List Value
  | [] => []
  | s :: rest => toValue s :: toValues rest

end

/-- What a comparison is made with when nothing else is said. -/
def defaultOperator : String := "=="

def readLeaf? (d : Document) : Option Spec := do
  match ← d.keyed? [["field"], ["operator"], ["value"]] with
  | [field, operator, value] =>
      let field ← field.bind Document.asText?
      let operator ← Document.orElse? defaultOperator Document.asText? operator
      some (leaf field operator (← Document.optional? Document.toValue? value))
  | _ => none

/-- Reads conditions that lie at most `fuel` deep. -/
def read? : Nat → Document → Option Spec
  | 0, _ => none
  | fuel + 1, d =>
      let children (key : String) : Option (List Spec) :=
        match d.under? key with
        | some (.list items) => items.mapM (read? fuel)
        | _ => none
      ((children "all").map all).orElse fun _ =>
      ((children "any").map any).orElse fun _ =>
      (((d.under? "not").bind (read? fuel)).map not).orElse fun _ =>
      readLeaf? d

def ofDocument? (d : Document) : Option Spec := read? (d.depth + 1) d

end Spec

end LossPrevention.Condition
