import LossPrevention.Failure
import LossPrevention.Json.Printer
import LossPrevention.Severity

/-!
Events: JSON objects with an object `event` that names a type and a severity.
-/

namespace LossPrevention.Event

open Json (Value)

inductive Fault where
  | notObject
  | missing (field : String)
  deriving DecidableEq

def Fault.message : Fault → String
  | notObject => "event must be a JSON object"
  | missing field => "missing required field: " ++ field

def Fault.failure (f : Fault) : Failure := ⟨.invalidEvent, f.message⟩

/-- The first thing that an event lacks. -/
def validate (event : Value) : Except Fault Unit :=
  match event with
  | .object root =>
      match Keyed.get? "event" root with
      | some (.object inner) =>
          if !Keyed.contains "type" inner then .error (.missing "event.type")
          else if !Keyed.contains "severity" inner then .error (.missing "event.severity")
          else .ok ()
      | _ => .error (.missing "event")
  | _ => .error .notObject

/-- The severity that an event's own one stands for: medium unless it is a known name. -/
def severityOf (inner : Json.Fields) : Severity :=
  ((Keyed.get? "severity" inner).bind Value.asText?).bind Severity.parse? |>.getD .medium

def withDefault (key : String) (value : Value) (fields : Json.Fields) : Json.Fields :=
  if Keyed.contains key fields then fields else Keyed.insert key value fields

/-- Writes the severity by its name and says of both decisions that they are not made yet. -/
def normalize (event : Value) : Value :=
  match event with
  | .object root =>
      let root := match Keyed.get? "event" root with
        | some (.object inner) =>
            let inner := Keyed.insert "severity" (.text (severityOf inner).name) inner
            Keyed.insert "event" (.object inner) root
        | _ => root
      .object (withDefault "quarantined" (.bool false) (withDefault "blocked" (.bool false) root))
  | v => v

def noId : String := "unknown"

/-- What an event is called: its `event_id`, as compact text unless it is a text. -/
def idOf (event : Value) : String :=
  match event.get? "event_id" with
  | some (.text id) => id
  | some .null | none => noId
  | some v => v.compact

end LossPrevention.Event
