import LossPrevention.Failure
import LossPrevention.Policy.Match

/-!
What the actions on an event come to. The outcomes of single actions are merged in their order:
the first block and the first quarantine decide, all else adds up.
-/

namespace LossPrevention.Enforcement

open Json (Value)

structure Alert where
  id : String
  policyId : String
  title : String
  description : String
  severity : Severity
  deriving DecidableEq

/-- Nobody has seen a new alert yet. -/
def Alert.toValue (a : Alert) : Value :=
  .ofFields [("id", .text a.id), ("policy_id", .text a.policyId), ("title", .text a.title),
    ("description", .text a.description), ("severity", .text a.severity.name),
    ("status", .text "new"), ("acknowledged", .bool false)]

structure Notification where
  channels : List String
  message : String
  policy : String
  deriving DecidableEq

def Notification.toValue (n : Notification) : Value :=
  .ofFields [("channels", .textList n.channels), ("message", .text n.message),
    ("policy", .text n.policy)]

/-- An action that was decided on and could not be carried out. -/
structure ActionFailure where
  policyId : String
  action : Action.Kind
  error : String
  deriving DecidableEq

def ActionFailure.toValue (f : ActionFailure) : Value :=
  .ofFields [("policy_id", .text f.policyId), ("action", .text f.action.name),
    ("error", .text f.error)]

structure Outcome where
  blocked : Bool := false
  blockReason : Option String := none
  quarantined : Bool := false
  quarantinePath : Option String := none
  quarantineReason : Option String := none
  alerts : List Alert := []
  notifications : List Notification := []
  failures : List ActionFailure := []
  deriving DecidableEq

namespace Outcome

def toValue (o : Outcome) : Value :=
  .ofFields [
    ("blocked", .bool o.blocked),
    ("block_reason", .textOrNull o.blockReason),
    ("quarantined", .bool o.quarantined),
    ("quarantine_path", .textOrNull o.quarantinePath),
    ("quarantine_reason", .textOrNull o.quarantineReason),
    ("alerts", .list (o.alerts.map Alert.toValue)),
    ("notifications", .list (o.notifications.map Notification.toValue)),
    ("failures", .list (o.failures.map ActionFailure.toValue))]

/-- What is given first stays; the texts of an outcome that does not block or quarantine do not
count. -/
def merge (a b : Outcome) : Outcome where
  blocked := a.blocked || b.blocked
  blockReason := if b.blocked then a.blockReason <|> b.blockReason else a.blockReason
  quarantined := a.quarantined || b.quarantined
  quarantinePath :=
    if b.quarantined then a.quarantinePath <|> b.quarantinePath else a.quarantinePath
  quarantineReason :=
    if b.quarantined then a.quarantineReason <|> b.quarantineReason else a.quarantineReason
  alerts := a.alerts ++ b.alerts
  notifications := a.notifications ++ b.notifications
  failures := a.failures ++ b.failures

def mergeAll (outcomes : List Outcome) : Outcome := outcomes.foldl merge {}

end Outcome

end LossPrevention.Enforcement
