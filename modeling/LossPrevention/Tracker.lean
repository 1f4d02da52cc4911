import LossPrevention.Json.Printer
import LossPrevention.Policy.Basic
import LossPrevention.Time.Instant

/-!
Sliding windows. Every policy with a threshold has a window of its own: the events that met its
conditions lately, oldest first. `Tracker.check` records an event, drops what has become too old
or too much, and counts the rest. Time comes from outside, reading by reading.
-/

namespace LossPrevention

open Json (Value)
open Time (Instant)

namespace Tracker

structure Config where
  maxEvents : Nat := 10000
  defaultWindow : String := "5m"
  deriving DecidableEq

def Config.fieldNames : List String := ["max_events_per_policy", "default_window"]

def Config.schema : Document.Schema := .record fieldNames

def Config.ofDocument? (d : Document) : Option Config := do
  match ← d.fields? (fieldNames.map ([·])) with
  | [maxEvents, defaultWindow] =>
      let default : Config := {}
      let maxEvents ← Document.orElse? default.maxEvents Document.asNat? maxEvents
      some ⟨maxEvents, ← Document.orElse? default.defaultWindow Document.asText? defaultWindow⟩
  | _ => none

structure Entry where
  time : Instant
  event : Value
  deriving DecidableEq

/-- Drops what is older than the cutoff from the front, up to the first entry that is not. -/
def expire (cutoff : Instant) (entries : List Entry) : List Entry :=
  entries.dropWhile (fun e => e.time < cutoff)

def latest (limit : Nat) (entries : List Entry) : List Entry :=
  entries.drop (entries.length - limit)

/-- The different values of a field, as texts. Absent fields and nulls have none. -/
def distinctTexts (field : FieldPath) (entries : List Entry) : List String :=
  ((entries.filterMap (fun e => field.resolve e.event)).filter (fun v => !v.isNull)
    |>.map Value.compact).eraseDups

def count (threshold : Policy.Threshold) (entries : List Entry) : Nat :=
  match threshold.distinct with
  | none => entries.length
  | some field => (distinctTexts field entries).length

end Tracker

structure Tracker where
  /-- How many entries a window keeps. -/
  limit : Nat
  windows : List (String × List Tracker.Entry)

namespace Tracker

/-- Without windows. One entry is kept in any case. -/
def ofConfig (config : Config) : Tracker := ⟨max 1 config.maxEvents, []⟩

def window (t : Tracker) (policy : String) : List Entry :=
  (Keyed.get? policy t.windows).getD []

def record (t : Tracker) (now : Instant) (length : Nat) (event : Value) (entries : List Entry) :
    List Entry :=
  latest t.limit (expire (now.back length) (entries ++ [⟨now, event⟩]))

/-- Whether the threshold of a policy is reached with this event. -/
def check (t : Tracker) (now : Instant) (policy : String) (rule : Policy.StatefulRule)
    (event : Value) : Bool × Tracker :=
  let entries := t.record now rule.window event (t.window policy)
  (rule.threshold.count ≤ count rule.threshold entries,
    { t with windows := Keyed.insert policy entries t.windows })

def retain (keep : List String) (t : Tracker) : Tracker :=
  { t with windows := t.windows.filter (fun w => keep.contains w.1) }

end Tracker

end LossPrevention
