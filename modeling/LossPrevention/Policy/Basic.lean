import LossPrevention.Condition.Basic
import LossPrevention.Policy.Definition

/-!
Policies ready for use. `Policy.compile` reports the first thing that a definition lacks: an id, a
name, conditions that can be used, and a threshold that can be reached.
-/

namespace LossPrevention.Policy

/-- How often the conditions have to hold within a window: so many events, or so many different
values of a field. -/
structure Threshold where
  count : Nat
  distinct : Option FieldPath := none
  deriving DecidableEq

structure StatefulRule where
  /-- The length of the window in seconds. -/
  window : Nat
  threshold : Threshold
  deriving DecidableEq

inductive Fault where
  | missing (field : String)
  | condition (fault : Condition.Fault)
  | zeroCount
  | path (fault : FieldPath.Fault)
  deriving DecidableEq

def Fault.message (words : Complaints) : Fault → String
  | missing field => "missing required field: " ++ field
  | condition fault => fault.message words
  | zeroCount => "threshold count must be at least 1"
  | path fault => fault.message

def Fault.failure (words : Complaints) (f : Fault) : Failure := ⟨.policy, f.message words⟩

def StatefulRule.compile (defaultWindow : Nat) (s : StatefulSpec) : Except Fault StatefulRule :=
  let rule (distinct : Option FieldPath) : StatefulRule :=
    ⟨s.window.length defaultWindow, ⟨s.threshold.count, distinct⟩⟩
  if s.threshold.count = 0 then .error .zeroCount
  else match s.threshold.distinctField with
    | none => .ok (rule none)
    | some field =>
        match FieldPath.parse field with
        | .error fault => .error (.path fault)
        | .ok path => .ok (rule (some path))

end Policy

structure Policy where
  id : String
  name : String
  enabled : Bool
  priority : Int
  severity : Option Severity
  conditions : Condition
  stateful : Option Policy.StatefulRule
  actions : List Action
  complianceTags : List String
  stopOnMatch : Bool

namespace Policy

def isBlank (text : String) : Bool := text.toList.all Text.isBlank

/-- What a definition comes to. A window that is not readable has the length `defaultWindow`. -/
def compile (defaultWindow : Nat) (d : Definition) : Except Fault Policy :=
  if isBlank d.id then .error (.missing "id")
  else if isBlank d.name then .error (.missing "name")
  else match Condition.compile d.conditions with
    | .error fault => .error (.condition fault)
    | .ok conditions =>
        let policy (stateful : Option StatefulRule) : Policy := {
          id := d.id
          name := d.name
          enabled := d.enabled
          priority := d.priority
          severity := d.severity
          conditions
          stateful
          actions := d.actions
          complianceTags := d.complianceTags
          stopOnMatch := d.stopOnMatch }
        match d.stateful with
        | none => .ok (policy none)
        | some s => (StatefulRule.compile defaultWindow s).map (fun rule => policy (some rule))

end Policy

end LossPrevention
