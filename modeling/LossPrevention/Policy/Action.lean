import LossPrevention.Document.Fields
import LossPrevention.Severity

/-!
What a policy does when it matches, in the order given. An action is written as a record with a
`type`, or as a list that the type leads.
-/

namespace LossPrevention

open Json (Value textField)

inductive LogLevel where
  | debug
  | info
  | warn
  | error
  deriving DecidableEq

namespace LogLevel

def name : LogLevel → String
  | debug => "debug"
  | info => "info"
  | warn => "warn"
  | error => "error"

def ofName? : String → Option LogLevel
  | "debug" => some debug
  | "info" => some info
  | "warn" => some warn
  | "error" => some error
  | _ => none

def names : List String := ["debug", "info", "warn", "error"]

def ofDocument? (d : Document) : Option LogLevel := (Document.asName? names d).bind ofName?

end LogLevel

namespace Severity

def names : List String := ["low", "medium", "high", "critical"]

def ofDocument? (d : Document) : Option Severity := (Document.asName? names d).bind ofName?

end Severity

inductive Action where
  | block (message : Option String)
  | alert (severity : Option Severity) (message : Option String)
  | quarantine (destination : String)
  | notify (channels : List String) (message : Option String)
  | log (level : LogLevel) (message : Option String)
  deriving DecidableEq

namespace Action

inductive Kind where
  | block
  | alert
  | quarantine
  | notify
  | log
  deriving DecidableEq

def Kind.name : Kind → String
  | block => "block"
  | alert => "alert"
  | quarantine => "quarantine"
  | notify => "notify"
  | log => "log"

def Kind.all : List Kind := [block, alert, quarantine, notify, log]

def Kind.ofName? (name : String) : Option Kind := Kind.all.find? (fun k => k.name = name)

def kind : Action → Kind
  | block _ => .block
  | alert _ _ => .alert
  | quarantine _ => .quarantine
  | notify _ _ => .notify
  | log _ _ => .log

/-- Where files go when nothing else is said. -/
def defaultDestination : String := "/var/quarantine/leakguard"

/-- The key of the field that says which kind of action it is. -/
def typeKey : String := "type"

def toValue (a : Action) : Value :=
  .ofFields <| (typeKey, .text a.kind.name) :: match a with
    | block message => textField "message" message
    | alert severity message =>
        textField "severity" (severity.map Severity.name) ++ textField "message" message
    | quarantine destination => [("destination", .text destination)]
    | notify channels message =>
        ("channels", .textList channels) :: textField "message" message
    | log level message => ("level", .text level.name) :: textField "message" message

def readFields? (kind : Kind) (d : Document) : Option Action :=
  match kind with
  | .block => do
      match ← d.fields? [["message"]] with
      | [message] => some (block (← Document.optional? Document.asText? message))
      | _ => none
  | .alert => do
      match ← d.fields? [["severity"], ["message"]] with
      | [severity, message] =>
          let severity ← Document.optional? Severity.ofDocument? severity
          some (alert severity (← Document.optional? Document.asText? message))
      | _ => none
  | .quarantine => do
      match ← d.fields? [["destination"]] with
      | [destination] =>
          let destination ← Document.orElse? defaultDestination Document.asText? destination
          some (quarantine destination)
      | _ => none
  | .notify => do
      match ← d.fields? [["channels"], ["message"]] with
      | [channels, message] =>
          let channels ← Document.orElse? [] (Document.asList? Document.asText?) channels
          some (notify channels (← Document.optional? Document.asText? message))
      | _ => none
  | .log => do
      match ← d.fields? [["level"], ["message"]] with
      | [level, message] =>
          let level ← Document.orElse? .info LogLevel.ofDocument? level
          some (log level (← Document.optional? Document.asText? message))
      | _ => none

/-- The kind by its name; its place among the kinds will do inside other documents. -/
def kindOf? (nested : Bool) : Document → Option Kind
  | .number (.int n) => if nested && 0 ≤ n then Kind.all[n.toNat]? else none
  | d => d.asText?.bind Kind.ofName?

def isTypeKey : Document → Bool
  | .text s => s = typeKey
  | _ => false

/-- An action at the top of a document, or nested in another one. -/
def ofDocument? (nested : Bool) (d : Document) : Option Action :=
  match d with
  | .list (t :: items) => do
      let kind ← kindOf? nested t
      readFields? kind (.list items)
  | .record entries =>
      match entries.filter (fun e => isTypeKey e.1) with
      | [(_, t)] => do
          let kind ← kindOf? nested t
          readFields? kind (.record (entries.filter (fun e => !isTypeKey e.1)))
      | _ => none
  | _ => none

end Action

end LossPrevention
