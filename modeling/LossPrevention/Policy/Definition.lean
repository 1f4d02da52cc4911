import LossPrevention.Condition.Spec
import LossPrevention.Policy.Action
import LossPrevention.Window

/-!
Policies as they are written: bare, or under the only key `policy`. `Definition.toValue` writes
every field but the optional ones that are not given.
-/

namespace LossPrevention.Policy

open Json (Value textField)

/-- The length of a window as written. Anything that is neither a number of seconds nor a text
stands for the default length. -/
inductive WindowSpec where
  | seconds (n : Nat)
  | text (s : String)
  | other (v : Value)
  deriving DecidableEq

namespace WindowSpec

def default : WindowSpec := .text "5m"

def toValue : WindowSpec → Value
  | seconds n => .ofNat n
  | text s => .text s
  | other v => v

def ofDocument? (d : Document) : Option WindowSpec :=
  (d.asNat?.map seconds).orElse fun _ =>
  (d.asText?.map text).orElse fun _ =>
  d.toValue?.map other

def length (fallback : Nat) : WindowSpec → Nat
  | seconds n => n
  | text s => (Window.parse? s).getD fallback
  | other _ => fallback

end WindowSpec

structure ThresholdSpec where
  count : Nat := 1
  distinctField : Option String := none
  deriving DecidableEq

namespace ThresholdSpec

def toValue (t : ThresholdSpec) : Value :=
  .object (("count", .ofNat t.count) :: textField "distinct_field" t.distinctField)

def ofDocument? (d : Document) : Option ThresholdSpec := do
  match ← d.fields? [["count"], ["distinct_field"]] with
  | [count, field] =>
      let count ← Document.orElse? 1 Document.asNat? count
      some ⟨count, ← Document.optional? Document.asText? field⟩
  | _ => none

end ThresholdSpec

structure StatefulSpec where
  window : WindowSpec := .default
  threshold : ThresholdSpec := {}
  deriving DecidableEq

namespace StatefulSpec

def toValue (s : StatefulSpec) : Value :=
  .object [("threshold", s.threshold.toValue), ("window", s.window.toValue)]

def ofDocument? (d : Document) : Option StatefulSpec := do
  match ← d.fields? [["window"], ["threshold"]] with
  | [window, threshold] =>
      let window ← Document.orElse? .default WindowSpec.ofDocument? window
      let threshold ← Document.orElse? {} ThresholdSpec.ofDocument? threshold
      some ⟨window, threshold⟩
  | _ => none

end StatefulSpec

structure Definition where
  id : String
  name : String
  description : Option String := none
  version : Option String := none
  enabled : Bool := true
  priority : Int := 100
  severity : Option Severity := none
  conditions : Condition.Spec
  stateful : Option StatefulSpec := none
  actions : List Action := []
  complianceTags : List String := []
  stopOnMatch : Bool := false

namespace Definition

def fieldNames : List (List String) :=
  [["id"], ["name"], ["description"], ["version"], ["enabled"], ["priority"], ["severity"],
    ["conditions"], ["stateful"], ["actions"], ["compliance_tags", "compliance"],
    ["stop_on_match"]]

def toValue (p : Definition) : Value :=
  .ofFields <|
    [("id", .text p.id), ("name", .text p.name)] ++
    textField "description" p.description ++
    textField "version" p.version ++
    [("enabled", .bool p.enabled), ("priority", .ofInt p.priority)] ++
    textField "severity" (p.severity.map Severity.name) ++
    [("conditions", p.conditions.toValue)] ++
    (p.stateful.toList.map fun s => ("stateful", s.toValue)) ++
    [("actions", .list (p.actions.map Action.toValue)),
      ("compliance_tags", .textList p.complianceTags),
      ("stop_on_match", .bool p.stopOnMatch)]

def readFields? (d : Document) : Option Definition := do
  match ← d.fields? fieldNames with
  | [id, name, description, version, enabled, priority, severity, conditions, stateful, actions,
      tags, stop] =>
      let id ← id.bind Document.asText?
      let name ← name.bind Document.asText?
      let description ← Document.optional? Document.asText? description
      let version ← Document.optional? Document.asText? version
      let enabled ← Document.orElse? true Document.asBool? enabled
      let priority ← Document.orElse? 100 Document.asInt? priority
      let severity ← Document.optional? Severity.ofDocument? severity
      let conditions ← conditions.bind Condition.Spec.ofDocument?
      let stateful ← Document.optional? StatefulSpec.ofDocument? stateful
      let actions ← Document.orElse? [] (Document.asList? (Action.ofDocument? true)) actions
      let complianceTags ← Document.orElse? [] (Document.asList? Document.asText?) tags
      let stopOnMatch ← Document.orElse? false Document.asBool? stop
      some {
        id, name, description, version, enabled, priority, severity, conditions, stateful,
        actions, complianceTags, stopOnMatch }
  | _ => none

/-- What is under the key `policy` is read first. -/
def ofDocument? (d : Document) : Option Definition :=
  ((d.under? "policy").bind readFields?).orElse fun _ => readFields? d

end Definition

end LossPrevention.Policy
