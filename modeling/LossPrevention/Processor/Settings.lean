import LossPrevention.Audit.Trail
import LossPrevention.Event.FieldPath

/-!
The settings of a processor as they are written.
-/

namespace LossPrevention.Processor

structure Config where
  /-- Where the content to classify is. -/
  contentField : String := "content"
  redactContent : Bool := false
  /-- What stands in the place of something sensitive. -/
  redaction : String := "[REDACTED]"
  maxAuditRecords : Nat := Audit.Trail.defaultLimit
  deriving DecidableEq

namespace Config

def fieldNames : List String :=
  ["content_field", "redact_content", "redaction", "max_audit_records"]

def schema : Document.Schema := .record fieldNames

def ofDocument? (d : Document) : Option Config := do
  match ← d.fields? (fieldNames.map ([·])) with
  | [contentField, redactContent, redaction, maxAuditRecords] =>
      let c : Config := {}
      let contentField ← Document.orElse? c.contentField Document.asText? contentField
      let redactContent ← Document.orElse? c.redactContent Document.asBool? redactContent
      let redaction ← Document.orElse? c.redaction Document.asText? redaction
      let maxAuditRecords ← Document.orElse? c.maxAuditRecords Document.asNat? maxAuditRecords
      some { contentField, redactContent, redaction, maxAuditRecords }
  | _ => none

def path (c : Config) : Except Failure FieldPath :=
  match FieldPath.parse c.contentField with
  | .ok path => .ok path
  | .error fault => .error ⟨.config, "invalid content_field: " ++ fault.failure.line⟩

end Config

end LossPrevention.Processor
