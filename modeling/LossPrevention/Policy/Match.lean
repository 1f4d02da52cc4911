import LossPrevention.Policy.Basic

/-!
What is said of a policy that matched an event.
-/

namespace LossPrevention.Policy

open Json (Value textField)

structure Match where
  policyId : String
  policyName : String
  priority : Int
  severity : Option Severity
  actions : List Action
  complianceTags : List String
  deriving DecidableEq

def toMatch (p : Policy) : Match where
  policyId := p.id
  policyName := p.name
  priority := p.priority
  severity := p.severity
  actions := p.actions
  complianceTags := p.complianceTags

def Match.toValue (m : Match) : Value :=
  .ofFields <|
    [("policy_id", .text m.policyId), ("policy_name", .text m.policyName),
      ("priority", .ofInt m.priority)] ++
    textField "severity" (m.severity.map Severity.name) ++
    [("actions", .list (m.actions.map Action.toValue)),
      ("compliance_tags", .textList m.complianceTags)]

end LossPrevention.Policy
