import LossPrevention.Classifier.Settings
import LossPrevention.CommandLine.Arguments
import LossPrevention.Processor.Settings
import LossPrevention.Tracker
import LossPrevention.Yaml.Reader

/-!
The settings of the program: a document with a part for everything that has settings. Arguments
override what the document says.
-/

namespace LossPrevention.CommandLine

inductive LogFormat where
  | text
  | json
  deriving DecidableEq

namespace LogFormat

def name : LogFormat → String
  | text => "text"
  | json => "json"

def ofDocument? (d : Document) : Option LogFormat :=
  (Document.asName? ["text", "json"] d).map fun s => if s = "json" then json else text

end LogFormat

structure Settings where
  policiesDir : String := "./policies"
  classifier : Classifier.Config := {}
  tracker : Tracker.Config := {}
  processor : Processor.Config := {}
  logFormat : LogFormat := .text

namespace Settings

def schema : Document.Schema :=
  .fields [("policies_dir", .all), ("classifier", Classifier.Config.schema),
    ("tracker", Tracker.Config.schema), ("processor", Processor.Config.schema),
    ("log_format", .all)]

def ofDocument? (d : Document) : Option Settings := do
  let fields := [["policies_dir"], ["classifier"], ["tracker"], ["processor"], ["log_format"]]
  match ← d.fields? fields with
  | [policiesDir, classifier, tracker, processor, logFormat] =>
      let s : Settings := {}
      let policiesDir ← Document.orElse? s.policiesDir Document.asText? policiesDir
      let classifier ← Document.orElse? s.classifier Classifier.Config.ofDocument? classifier
      let tracker ← Document.orElse? s.tracker Tracker.Config.ofDocument? tracker
      let processor ← Document.orElse? s.processor Processor.Config.ofDocument? processor
      let logFormat ← Document.orElse? s.logFormat LogFormat.ofDocument? logFormat
      some { policiesDir, classifier, tracker, processor, logFormat }
  | _ => none

def ofText? (text : String) : Option Settings := (Yaml.read? schema text).bind ofDocument?

def override (a : Arguments) (s : Settings) : Settings where
  policiesDir := a.policies.getD s.policiesDir
  classifier := s.classifier
  tracker := s.tracker
  processor := { s.processor with
    contentField := a.contentField.getD s.processor.contentField
    redactContent := a.redact || s.processor.redactContent }
  logFormat := if a.jsonLogs then .json else s.logFormat

end Settings

end LossPrevention.CommandLine
