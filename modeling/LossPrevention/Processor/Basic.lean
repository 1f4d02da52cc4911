import LossPrevention.Classifier.Settings
import LossPrevention.Enforcement.Basic
import LossPrevention.Engine.Basic
import LossPrevention.Processor.Settings

/-!
The way of an event: it is validated and normalized, its content is classified, the policies are
evaluated and enforced, and the event leaves with the decision written on it. Sensitive content is
taken out if so configured, and every match goes into the audit trail.
-/

namespace LossPrevention

open Classifier (Classification)
open Enforcement (Executor Outcome)
open Json (Value)
open Policy (Match)
open Time (Instant)

namespace Processor

/-- What the world contributes to the processing of one event. -/
structure Occasion where
  now : Instant
  /-- The order in which the counts of the content's characters are added up. -/
  order : Classifier.Entropy.Order
  /-- The id and the time of an audit record. -/
  recordId : String
  recordTime : Instant
  /-- How long the classification took, in microseconds. -/
  latency : Nat := 0

structure Processed where
  event : Value
  classification : Option Classification
  matched : List Match
  outcome : Outcome

/-- Where the text goes of which the sensitive parts are taken out. -/
def redactedKey : String := "content_redacted"

def setField (key : String) (value : Value) : Value → Value
  | .object fields => .object (Keyed.insert key value fields)
  | _ => .object [(key, value)]

def setFields (fields : List (String × Value)) (event : Value) : Value :=
  fields.foldl (fun event (key, value) => setField key value event) event

/-- The text to classify: at the path, or what an earlier redaction left. -/
def content? (path : FieldPath) (event : Value) : Option String :=
  ((path.resolve event <|> event.get? redactedKey).bind Value.asText?).filter (· ≠ "")

/-- A list as a field, unless there is nothing in it. -/
def listField (key : String) (items : List Value) : List (String × Value) :=
  if items.isEmpty then [] else [(key, .list items)]

def decisionFields (now : Instant) (matched : List Match) (outcome : Outcome) :
    List (String × Value) :=
  [("blocked", .bool outcome.blocked), ("quarantined", .bool outcome.quarantined)] ++
  match matched with
  | [] => []
  | primary :: _ =>
      [("policy", primary.toValue), ("policies_matched", .list (matched.map Match.toValue)),
        ("policy_evaluated_at", .text now.text)] ++
      Json.textField "block_reason" outcome.blockReason ++
      Json.textField "quarantine_path" outcome.quarantinePath ++
      Json.textField "quarantine_reason" outcome.quarantineReason ++
      (outcome.alerts.head?.toList.map fun a => ("alert", a.toValue)) ++
      listField "notifications" (outcome.notifications.map (·.toValue)) ++
      listField "action_failures" (outcome.failures.map (·.toValue))

/-- Replaces the text at the path by a copy without its sensitive parts. -/
def redact (path : FieldPath) (marker : String) (event : Value) : Value :=
  match (path.resolve event).bind Value.asText? with
  | none => event
  | some text =>
      let rest := ((path.remove event).map Prod.snd).getD event
      setField redactedKey (.text (Classifier.redact marker text)) rest

def gradeOf (outcome : Outcome) : Audit.Grade :=
  if outcome.alerts.any (fun a => a.severity = .critical) then .critical
  else if outcome.blocked || outcome.quarantined then .high
  else .warning

def recordOf (occasion : Occasion) (event : Value) (matched : List Match) (outcome : Outcome) :
    Audit.Record :=
  let labels := (event.get? "classification").bind (·.get? "labels")
  let record : Audit.Record := {
    id := occasion.recordId
    eventType := "policy_matched"
    subject := some (Event.idOf event)
    policyIds := matched.map Match.policyId
    time := occasion.recordTime
    severity := gradeOf outcome }
  record.withData <| .ofFields [
    ("blocked", .bool outcome.blocked),
    ("quarantined", .bool outcome.quarantined),
    ("labels", labels.getD .null)]

end Processor

/-- A processor with an executor that remembers a `σ`. -/
structure Processor (σ : Type) where
  classifier : Classifier
  engine : Engine
  executor : Executor σ
  memory : σ
  config : Processor.Config := {}
  contentField : FieldPath
  trail : Audit.Trail

namespace Processor

variable {σ : Type}

/-- Fails if the configured path is none. -/
def create (classifier : Classifier) (engine : Engine) (executor : Executor σ) (memory : σ)
    (config : Config) : Except Failure (Processor σ) :=
  config.path.map fun contentField => {
    classifier, engine, executor, memory, config, contentField
    trail := .empty config.maxAuditRecords }

def classification? (p : Processor σ) (order : Classifier.Entropy.Order) (event : Value) :
    Option Classification :=
  (content? p.contentField event).map fun text => p.classifier.classify order text.toList

def classified (event : Value) : Option Classification → Value
  | some c => setField "classification" c.toValue event
  | none => event

def countClassification (p : Processor σ) (latency : Nat) : Option Classification → Processor σ
  | some _ => { p with engine.metrics := p.engine.metrics.classification latency }
  | none => p

def annotated (p : Processor σ) (now : Instant) (classification : Option Classification)
    (matched : List Match) (outcome : Outcome) (event : Value) : Value :=
  let event := setFields (decisionFields now matched outcome) event
  match classification with
  | some c =>
      if p.config.redactContent && c.isSensitive then
        redact p.contentField p.config.redaction event
      else event
  | none => event

/-- Processes an event. When no policies have been loaded only the classification is counted. -/
def process (p : Processor σ) (occasion : Occasion) (event : Value) :
    Except Failure Processed × Processor σ :=
  match Event.validate event with
  | .error fault => (.error fault.failure, p)
  | .ok () =>
      let event := Event.normalize event
      let classification := p.classification? occasion.order event
      let event := classified event classification
      let p := p.countClassification occasion.latency classification
      match p.engine.evaluate occasion.now event with
      | none => (.error Engine.notLoaded, p)
      | some (matched, engine) =>
          let (outcome, memory) := Enforcement.enforce p.executor p.memory matched event
          let metrics := engine.metrics.failed outcome.failures.length
          let event := p.annotated occasion.now classification matched outcome event
          let trail :=
            if matched.isEmpty then p.trail
            else p.trail.add (recordOf occasion event matched outcome)
          (.ok { event, classification, matched, outcome },
            { p with engine := { engine with metrics }, memory, trail })

end Processor

end LossPrevention
