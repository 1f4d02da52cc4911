import LossPrevention.Document.Fields
import LossPrevention.Json.Printer
import LossPrevention.Policy.Action
import LossPrevention.Sha256
import LossPrevention.Time.Timestamp

/-!
Records of decisions. `Record.bytes` is what the hash of a record is taken of: everything in it but
the hash itself, with the hash of the record before it at the end.
-/

namespace LossPrevention.Audit

open Json (Value)
open Time (Instant)

inductive Grade where
  | info
  | warning
  | high
  | critical
  deriving DecidableEq

namespace Grade

def name : Grade → String
  | info => "info"
  | warning => "warning"
  | high => "high"
  | critical => "critical"

def all : List Grade := [info, warning, high, critical]

def ofName? (s : String) : Option Grade := all.find? (fun g => g.name = s)

def ofDocument? (d : Document) : Option Grade :=
  (Document.asName? (all.map name) d).bind ofName?

end Grade

structure Record where
  id : String
  eventType : String
  /-- The id of the event that the record is about. -/
  subject : Option String := none
  policyIds : List String := []
  /-- More about the decision, as JSON text. -/
  data : Option String := none
  time : Instant
  severity : Grade := .info
  hash : Option String := none
  previousHash : Option String := none
  deriving DecidableEq

namespace Record

def toValue (r : Record) : Value :=
  .ofFields [
    ("id", .text r.id),
    ("event_type", .text r.eventType),
    ("subject", .textOrNull r.subject),
    ("policy_ids", .textList r.policyIds),
    ("data", .textOrNull r.data),
    ("timestamp", .text r.time.zuluText),
    ("severity", .text r.severity.name),
    ("hash", .textOrNull r.hash),
    ("previous_hash", .textOrNull r.previousHash)]

def fieldNames : List (List String) :=
  [["id"], ["event_type"], ["subject"], ["policy_ids"], ["data"], ["timestamp"], ["severity"],
    ["hash"], ["previous_hash"]]

def ofDocument? (d : Document) : Option Record := do
  match ← d.fields? fieldNames with
  | [id, eventType, subject, policyIds, data, time, severity, hash, previousHash] =>
      let id ← id.bind Document.asText?
      let eventType ← eventType.bind Document.asText?
      let subject ← Document.optional? Document.asText? subject
      let policyIds ← policyIds.bind (Document.asList? Document.asText?)
      let data ← Document.optional? Document.asText? data
      let time ← (time.bind Document.asText?).bind Instant.ofText?
      let severity ← severity.bind Grade.ofDocument?
      let hash ← Document.optional? Document.asText? hash
      let previousHash ← Document.optional? Document.asText? previousHash
      some { id, eventType, subject, policyIds, data, time, severity, hash, previousHash }
  | _ => none

def withData (r : Record) (data : Value) : Record := { r with data := some data.compact }

def optionBytes : Option String → List UInt8
  | some s => Sha256.bytes s
  | none => []

/-- The texts of the record one after another; a zero byte ends each policy id. -/
def bytes (r : Record) : List UInt8 :=
  Sha256.bytes r.id ++ Sha256.bytes r.eventType ++ optionBytes r.subject ++
    r.policyIds.flatMap (fun p => Sha256.bytes p ++ [0]) ++ optionBytes r.data ++
    Sha256.bytes r.time.text ++ Sha256.bytes r.severity.name ++ optionBytes r.previousHash

end Record

end LossPrevention.Audit
