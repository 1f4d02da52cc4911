import LossPrevention.Enforcement.Outcome
import LossPrevention.Event.Basic

/-!
Carrying out the actions of the policies that match. Deciding what to do and doing it are two
things: `calls` lists what an executor is asked to do, in order, and a failing call changes
neither the other calls nor what has been decided.
-/

namespace LossPrevention.Enforcement

open Json (Value)
open Policy (Match)

/-- An action with everything filled in that it left open. -/
inductive Order where
  | block (reason : String)
  | alert (alert : Alert)
  | quarantine (destination : String)
  | notify (notification : Notification)
  | log (level : LogLevel) (message : String)
  deriving DecidableEq

def Order.kind : Order → Action.Kind
  | block _ => .block
  | alert _ => .alert
  | quarantine _ => .quarantine
  | notify _ => .notify
  | log _ _ => .log

structure Call where
  policy : Match
  event : Value
  order : Order
  deriving DecidableEq

/-- Carries out calls one by one. It may remember what it has done and answers with a failure if
it could not do what it was asked to. -/
abbrev Executor (σ : Type) := σ → Call → σ × Option Failure

namespace Executor

def accepting : Executor Unit := fun memory _ => (memory, none)

end Executor

def hasFile (event : Value) : Bool :=
  match event.get? "file" with
  | some (.object _) => true
  | _ => false

def violation (policy : Match) : String := "Policy violation: " ++ policy.policyName

def alertOf (policy : Match) (event : Value) (severity : Option Severity)
    (message : Option String) : Alert where
  id := "alert-" ++ Event.idOf event
  policyId := policy.policyId
  title := "DLP Policy Violation: " ++ policy.policyName
  description := message.getD (violation policy)
  severity := (severity <|> policy.severity).getD .medium

/-- What an action asks for. There is nothing to quarantine on an event without a file. -/
def order? (policy : Match) (event : Value) : Action → Option Order
  | .block message => some (.block (message.getD ("Blocked by policy: " ++ policy.policyName)))
  | .alert severity message => some (.alert (alertOf policy event severity message))
  | .quarantine destination => if hasFile event then some (.quarantine destination) else none
  | .notify channels message =>
      some (.notify ⟨channels, message.getD (violation policy), policy.policyName⟩)
  | .log level message =>
      some (.log level (message.getD ("Policy matched: " ++ policy.policyName)))

def calls (matched : List Match) (event : Value) : List Call :=
  matched.flatMap fun policy =>
    (policy.actions.filterMap (order? policy event)).map fun order => ⟨policy, event, order⟩

def Call.decision (c : Call) : Outcome :=
  match c.order with
  | .block reason => { blocked := true, blockReason := some reason }
  | .alert alert => { alerts := [alert] }
  | .quarantine destination => {
      quarantined := true
      quarantinePath := some destination
      quarantineReason := some ("Quarantined by policy: " ++ c.policy.policyName) }
  | .notify notification => { notifications := [notification] }
  | .log _ _ => {}

/-- What a call comes to with the answer of the executor. -/
def Call.outcome (c : Call) (answer : Option Failure) : Outcome :=
  { c.decision with
    failures := answer.toList.map fun f => ⟨c.policy.policyId, c.order.kind, f.line⟩ }

def answers {σ : Type} (executor : Executor σ) : σ → List Call → List (Option Failure) × σ
  | memory, [] => ([], memory)
  | memory, c :: rest =>
      let (memory, answer) := executor memory c
      let (others, memory) := answers executor memory rest
      (answer :: others, memory)

/-- Carries out all calls and merges what they come to. -/
def carryOut {σ : Type} (executor : Executor σ) (memory : σ) (requests : List Call) :
    Outcome × σ :=
  let (replies, memory) := answers executor memory requests
  (.mergeAll ((requests.zip replies).map fun (c, answer) => c.outcome answer), memory)

def enforce {σ : Type} (executor : Executor σ) (memory : σ) (matched : List Match)
    (event : Value) : Outcome × σ :=
  carryOut executor memory (calls matched event)

end LossPrevention.Enforcement
