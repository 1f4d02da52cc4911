import LossPrevention.Proofs.Enforcement.Outcome
import LossPrevention.Proofs.Processor.Run
import Mathlib.Data.List.Forall2
import Mathlib.Data.List.ReduceOption

/-!
Enforcement as a walk over the actions of the matching policies. An action is due unless it would
quarantine a file that the event has not. Every action that is due is one call, and what it decides
is decided before the answer comes. Main statement: the calls and the decisions are read off the
actions that are due, whatever the answers are, and the failures are those of the calls.
-/

namespace LossPrevention.Enforcement

open Json (Value)
open Policy (Match)

/-- An action with the policy that asks for it. -/
abbrev Task := Match × Action

def tasks (matched : List Match) : List Task :=
  matched.flatMap fun policy => policy.actions.map (Prod.mk policy)

/-! ### What an action comes to -/

namespace Task

def isDue (event : Value) (t : Task) : Bool := t.2.kind ≠ .quarantine || hasFile event

def blockReason? : Task → Option String
  | (policy, .block message) => some (message.getD ("Blocked by policy: " ++ policy.policyName))
  | _ => none

/-- The place and the reason of a quarantine. -/
def quarantine? : Task → Option (String × String)
  | (policy, .quarantine destination) =>
      some (destination, "Quarantined by policy: " ++ policy.policyName)
  | _ => none

/-- The severity of an alert is that of its action, else that of its policy, else medium. -/
def severityOf : Option Severity → Option Severity → Severity
  | some own, _ => own
  | none, some policy => policy
  | none, none => .medium

def alert? (event : Value) : Task → Option Alert
  | (policy, .alert severity message) => some {
      id := "alert-" ++ Event.idOf event
      policyId := policy.policyId
      title := "DLP Policy Violation: " ++ policy.policyName
      description := message.getD ("Policy violation: " ++ policy.policyName)
      severity := severityOf severity policy.severity }
  | _ => none

def notification? : Task → Option Notification
  | (policy, .notify channels message) =>
      some ⟨channels, message.getD ("Policy violation: " ++ policy.policyName), policy.policyName⟩
  | _ => none

/-- The call is made for the action. -/
structure Asks (event : Value) (t : Task) (c : Call) : Prop where
  policy : c.policy = t.1
  order : order? t.1 event t.2 = some c.order
  kind : c.order.kind = t.2.kind
  event : c.event = event

end Task

/-- What has been decided when these actions are due; failures may come to it. -/
structure Decides (event : Value) (actions : List Task) (o : Outcome) : Prop where
  blocked : o.blocked = actions.any fun t => t.2.kind = .block
  blockReason : o.blockReason = actions.findSome? Task.blockReason?
  quarantined : o.quarantined = actions.any fun t => t.2.kind = .quarantine
  quarantinePath : o.quarantinePath = (actions.findSome? Task.quarantine?).map Prod.fst
  quarantineReason : o.quarantineReason = (actions.findSome? Task.quarantine?).map Prod.snd
  alerts : o.alerts = actions.filterMap (Task.alert? event)
  notifications : o.notifications = actions.filterMap Task.notification?

/-- The executor that answers a call as `reply` does with the calls so far, which it remembers. -/
def Executor.answering (reply : List Call → Call → Option Failure) : Executor (List Call) :=
  fun earlier c => (earlier ++ [c], reply earlier c)

def Call.failure (c : Call) (f : Failure) : ActionFailure :=
  ⟨c.policy.policyId, c.order.kind, f.line⟩

/-- The calls that were answered with a failure. -/
def failuresOf (reply : List Call → Call → Option Failure) (made : List Call) :
    List ActionFailure :=
  (made.mapIdx fun i c => (reply (made.take i) c).map c.failure).reduceOption

/-! ### Calls -/

section Calls

variable {event : Value} {t : Task} {c : Call}

def call? (event : Value) (t : Task) : Option Call :=
  (order? t.1 event t.2).map fun order => ⟨t.1, event, order⟩

theorem calls_eq (matched : List Match) (event : Value) :
    calls matched event = (tasks matched).filterMap (call? event) := by
  rw [tasks, List.filterMap_flatMap, calls]
  congr 1
  funext policy
  rw [List.filterMap_map, List.map_filterMap]
  rfl

theorem asks_of_call? (h : call? event t = some c) : t.Asks event c := by
  obtain ⟨policy, action⟩ := t
  obtain ⟨order, horder, rfl⟩ := Option.map_eq_some_iff.1 h
  refine ⟨rfl, horder, ?_, rfl⟩
  cases action with
  | quarantine destination =>
      rw [order?] at horder
      split at horder <;> cases horder
      rfl
  | _ => cases horder; rfl

theorem isSome_call? : (call? event t).isSome = t.isDue event := by
  obtain ⟨policy, action⟩ := t
  cases action with
  | quarantine destination =>
      rw [call?, Option.isSome_map, order?]
      cases hfile : hasFile event <;> simp [Task.isDue, Action.kind, hfile]
  | _ => simp [call?, order?, Task.isDue, Action.kind]

/-- One call for every action that is due, in their order. -/
theorem forall₂_calls (matched : List Match) (event : Value) :
    List.Forall₂ (fun t c => call? event t = some c) ((tasks matched).filter (Task.isDue event))
      (calls matched event) := by
  rw [calls_eq]
  induction tasks matched with
  | nil => exact .nil
  | cons t rest ih =>
      cases hcall : call? event t with
      | none =>
          have hdue : t.isDue event = false := by rw [← isSome_call?, hcall]; rfl
          rw [List.filter_cons_of_neg (by rw [hdue]; decide), List.filterMap_cons_none hcall]
          exact ih
      | some c =>
          have hdue : t.isDue event = true := by rw [← isSome_call?, hcall]; rfl
          rw [List.filter_cons_of_pos hdue, List.filterMap_cons_some hcall]
          exact .cons hcall ih

end Calls

/-! ### The walk -/

section Walk

variable {σ : Type} (executor : Executor σ)

/-- One call, and what it comes to. -/
def perform (s : Outcome × σ) (c : Call) : Outcome × σ :=
  let (memory, answer) := executor s.2 c
  (s.1.merge (c.outcome answer), memory)

theorem foldl_perform (requests : List Call) (start : Outcome) (memory : σ) :
    requests.foldl (perform executor) (start, memory) =
      (((requests.zip (answers executor memory requests).1).map
        fun (c, answer) => c.outcome answer).foldl Outcome.merge start,
      (answers executor memory requests).2) := by
  induction requests generalizing start memory with
  | nil => rfl
  | cons c rest ih =>
      rw [List.foldl_cons, perform, ih]
      rfl

/-- Enforcing goes from call to call. -/
theorem enforce_eq_foldl (memory : σ) (matched : List Match) (event : Value) :
    enforce executor memory matched event =
      (calls matched event).foldl (perform executor) ({}, memory) := by
  rw [foldl_perform]
  rfl

end Walk

/-! ### What is decided -/

section Decides

variable {event : Value} {actions others : List Task} {t : Task} {c : Call} {o a b : Outcome}

theorem isSome_blockReason? (t : Task) : t.blockReason?.isSome = decide (t.2.kind = .block) := by
  obtain ⟨policy, action⟩ := t
  cases action <;> rfl

theorem isSome_quarantine? (t : Task) :
    t.quarantine?.isSome = decide (t.2.kind = .quarantine) := by
  obtain ⟨policy, action⟩ := t
  cases action <;> rfl

theorem isSome_findSome? {α β : Type} (f : α → Option β) (xs : List α) :
    (xs.findSome? f).isSome = xs.any fun x => (f x).isSome := by
  rw [Bool.eq_iff_iff, List.findSome?_isSome_iff, List.any_eq_true]

theorem Decides.coherent (h : Decides event actions o) : o.Coherent := by
  have hquarantine : (actions.findSome? Task.quarantine?).isSome = o.quarantined := by
    rw [h.quarantined, isSome_findSome?, funext isSome_quarantine?]
  refine ⟨?_, ?_, ?_⟩
  · rw [h.blocked, h.blockReason, isSome_findSome?, funext isSome_blockReason?]
  · rw [h.quarantinePath, Option.isSome_map, hquarantine]
  · rw [h.quarantineReason, Option.isSome_map, hquarantine]

theorem decides_nil (event : Value) : Decides event [] {} := ⟨rfl, rfl, rfl, rfl, rfl, rfl, rfl⟩

/-- What is decided first stays, and the rest adds up. -/
theorem Decides.merge (ha : Decides event actions a) (hb : Decides event others b) :
    Decides event (actions ++ others) (a.merge b) := by
  have hcoherent := hb.coherent
  refine ⟨?_, ?_, ?_, ?_, ?_, ?_, ?_⟩
  · rw [List.any_append, ← ha.blocked, ← hb.blocked]
    rfl
  · rw [List.findSome?_append, ← ha.blockReason, ← hb.blockReason]
    exact Outcome.first_eq_or hcoherent.block
  · rw [List.any_append, ← ha.quarantined, ← hb.quarantined]
    rfl
  · rw [List.findSome?_append, Option.map_or, ← ha.quarantinePath, ← hb.quarantinePath]
    exact Outcome.first_eq_or hcoherent.path
  · rw [List.findSome?_append, Option.map_or, ← ha.quarantineReason, ← hb.quarantineReason]
    exact Outcome.first_eq_or hcoherent.reason
  · rw [List.filterMap_append, ← ha.alerts, ← hb.alerts]
    rfl
  · rw [List.filterMap_append, ← ha.notifications, ← hb.notifications]
    rfl

theorem alertOf_eq (policy : Match) (event : Value) (severity : Option Severity)
    (message : Option String) :
    Task.alert? event (policy, .alert severity message) =
      some (alertOf policy event severity message) := by
  have hseverity : Task.severityOf severity policy.severity =
      (severity <|> policy.severity).getD .medium := by
    cases severity <;> cases policy.severity <;> rfl
  rw [Task.alert?, hseverity]
  rfl

/-- The answer to a call makes no difference to what the call decides. -/
theorem decides_outcome (h : call? event t = some c) (answer : Option Failure) :
    Decides event [t] (c.outcome answer) := by
  obtain ⟨policy, action⟩ := t
  cases action with
  | alert severity message =>
      cases h
      refine ⟨rfl, rfl, rfl, rfl, rfl, ?_, rfl⟩
      rw [List.filterMap_cons_some (alertOf_eq policy event severity message)]
      rfl
  | quarantine destination =>
      obtain ⟨order, horder, rfl⟩ := Option.map_eq_some_iff.1 h
      rw [order?] at horder
      split at horder <;> cases horder
      exact ⟨rfl, rfl, rfl, rfl, rfl, rfl, rfl⟩
  | block message | notify channels message | log level message =>
      cases h
      exact ⟨rfl, rfl, rfl, rfl, rfl, rfl, rfl⟩

/-- Decisions about the same actions differ in nothing but the failures. -/
theorem Decides.eq_of_failures (ha : Decides event actions a) (hb : Decides event actions b) :
    { a with failures := b.failures } = b := by
  obtain ⟨blocked, reason, quarantined, path, why, alerts, notifications, failures⟩ := b
  rw [ha.blocked, ha.blockReason, ha.quarantined, ha.quarantinePath, ha.quarantineReason, ha.alerts,
    ha.notifications, ← hb.blocked, ← hb.blockReason, ← hb.quarantined, ← hb.quarantinePath,
    ← hb.quarantineReason, ← hb.alerts, ← hb.notifications]

end Decides

/-! ### Runs -/

section Carried

variable {event : Value} {actions others : List Task} {t : Task} {c : Call}
  {reply : List Call → Call → Option Failure} {s : Outcome × List Call}

/-- How matters stand when these actions have been carried out. -/
structure Carried (reply : List Call → Call → Option Failure) (event : Value)
    (actions : List Task) (s : Outcome × List Call) : Prop where
  asked : List.Forall₂ (Task.Asks event) actions s.2
  decides : Decides event actions s.1
  failures : s.1.failures = failuresOf reply s.2

theorem failuresOf_concat (made : List Call) (c : Call) :
    failuresOf reply (made ++ [c]) =
      failuresOf reply made ++ (reply made c).toList.map c.failure := by
  have hearlier : (made.mapIdx fun i d => (reply ((made ++ [c]).take i) d).map d.failure) =
      made.mapIdx fun i d => (reply (made.take i) d).map d.failure := by
    refine List.ext_getElem (by simp) ?_
    intro i hi hi'
    have hlength : i ≤ made.length := by
      rw [List.length_mapIdx] at hi
      exact Nat.le_of_lt hi
    rw [List.getElem_mapIdx, List.getElem_mapIdx, List.take_append_of_le_length hlength]
  rw [failuresOf, List.mapIdx_concat, hearlier, List.take_left, List.reduceOption_append]
  cases reply made c <;> rfl

theorem carried_start (reply : List Call → Call → Option Failure) (event : Value) :
    Carried reply event [] ({}, []) := ⟨.nil, decides_nil event, rfl⟩

/-- A call that fails is noted as a failure, and all goes on as if it had not failed. -/
theorem carried_perform (h : Carried reply event actions s) (hc : call? event t = some c) :
    Carried reply event (actions ++ [t]) (perform (.answering reply) s c) where
  asked := List.rel_append h.asked (.cons (asks_of_call? hc) .nil)
  decides := h.decides.merge (decides_outcome hc (reply s.2 c))
  failures := by
    have hmerge : (perform (.answering reply) s c).1.failures =
        s.1.failures ++ (reply s.2 c).toList.map c.failure := rfl
    rw [hmerge, h.failures]
    exact (failuresOf_concat s.2 c).symm

theorem carried_foldl {requests : List Call} (h : Carried reply event actions s)
    (hrequests : List.Forall₂ (fun t c => call? event t = some c) others requests) :
    Carried reply event (actions ++ others) (requests.foldl (perform (.answering reply)) s) := by
  induction hrequests generalizing actions s with
  | nil => simpa using h
  | cons hc _ ih =>
      rw [List.append_cons]
      exact ih (carried_perform h hc)

theorem carried_enforce (reply : List Call → Call → Option Failure) (matched : List Match)
    (event : Value) :
    Carried reply event ((tasks matched).filter (Task.isDue event))
      (enforce (.answering reply) [] matched event) := by
  rw [enforce_eq_foldl]
  exact carried_foldl (carried_start reply event) (forall₂_calls matched event)

theorem Task.Asks.eq (h : t.Asks event c) : c = ⟨t.1, event, c.order⟩ := by
  rw [← h.policy, ← h.event]

theorem Task.Asks.unique {d : Call} (hc : t.Asks event c) (hd : t.Asks event d) : c = d := by
  rw [hc.eq, hd.eq, Option.some.inj (hc.order.symm.trans hd.order)]

/-- The answers make no difference to the calls and to what is decided. -/
theorem Carried.congr {reply' : List Call → Call → Option Failure} {s' : Outcome × List Call}
    (h : Carried reply event actions s) (h' : Carried reply' event actions s') :
    s'.2 = s.2 ∧ { s'.1 with failures := s.1.failures } = s.1 := by
  refine ⟨?_, h'.decides.eq_of_failures h.decides⟩
  exact List.right_unique_forall₂' (fun _ _ _ hc hd => hc.unique hd) h'.asked h.asked

end Carried

/-- What a processor counts and passes on of an event that it completes. -/
theorem failures_process {σ : Type} {p p' : Processor σ} {occasion : Processor.Occasion}
    {event : Value} {done : Processor.Processed}
    (h : p.process occasion event = (.ok done, p')) :
    done.outcome = (enforce p.executor p.memory done.matched (p.seen occasion event)).1 ∧
      p'.engine.metrics.actionFailures =
        p.engine.metrics.actionFailures + done.outcome.failures.length := by
  rcases Processor.process_cases p occasion event with ⟨_, -, hp⟩ | ⟨-, -, hp⟩ | ⟨-, set, -, hp⟩
  · cases h.symm.trans hp
  · cases h.symm.trans hp
  · cases h.symm.trans hp
    refine ⟨rfl, ?_⟩
    have hnoted : (p.noted occasion event).engine.metrics.actionFailures =
        p.engine.metrics.actionFailures := by
      rw [Processor.noted]
      cases p.verdict occasion event <;> rfl
    rw [← hnoted]
    rfl

/-- Every action that is due is one call, in the order of the policies and their actions, and the
calls that fail are the failures. The calls and all else that is decided are read off the actions,
so that no answer makes a difference to them. A processor passes on what is decided and counts the
failures. -/
theorem enforce_regardless (reply : List Call → Call → Option Failure) (matched : List Match)
    (event : Value) :
    let s := enforce (.answering reply) [] matched event
    Carried reply event ((tasks matched).filter (Task.isDue event)) s ∧
    (∀ reply', let s' := enforce (.answering reply') [] matched event
      s'.2 = s.2 ∧ { s'.1 with failures := s.1.failures } = s.1) ∧
    ∀ (σ : Type) (p p' : Processor σ) occasion event done,
      p.process occasion event = (.ok done, p') →
      done.outcome = (enforce p.executor p.memory done.matched (p.seen occasion event)).1 ∧
        p'.engine.metrics.actionFailures =
          p.engine.metrics.actionFailures + done.outcome.failures.length := by
  have hcarried (reply : List Call → Call → Option Failure) :=
    carried_enforce reply matched event
  exact ⟨hcarried reply, fun reply' => (hcarried reply).congr (hcarried reply'),
    fun _ _ _ _ _ _ => failures_process⟩

/-- Neither blocks nor moves files. -/
def powerless : List Call → Call → Option Failure := fun _ c =>
  match c.order.kind with
  | .block => some ⟨.action, "out of reach"⟩
  | .quarantine => some ⟨.io, "disk full"⟩
  | _ => none

/-- A policy that matches every event. -/
def always (id name : String) (actions : List Action) : Policy where
  id := id
  name := name
  enabled := true
  priority := 100
  severity := none
  conditions := .all []
  stateful := none
  actions := actions
  complianceTags := []
  stopOnMatch := false

def twoPolicies : Engine.PolicySet where
  policies := [
    always "first" "First" [.block none, .quarantine "/vault", .notify ["desk"] none],
    always "second" "Second" [.alert none none, .block (some "again")]]
  generation := 1

def guarded : Processor (List Call) where
  classifier := {}
  engine := { Engine.ofConfig {} with active := some twoPolicies }
  executor := .answering powerless
  memory := []
  contentField := ⟨"content", []⟩
  trail := .empty 10

def occasion : Processor.Occasion := ⟨⟨0, 0⟩, .asWritten, "record", ⟨0, 0⟩, 0⟩

def fileEvent : Value := .object [
  ("event", .object [("severity", .text "low"), ("type", .text "file")]),
  ("file", .object [("path", .text "/tmp/list")])]

/-- Two blocks and a quarantine fail, and all is decided as if they had not. -/
theorem enforce_regardless_powerless :
    ∃ done p', guarded.process occasion fileEvent = (.ok done, p') ∧
      done.outcome.blockReason = some "Blocked by policy: First" ∧
      done.outcome.quarantinePath = some "/vault" ∧
      done.outcome.notifications = [⟨["desk"], "Policy violation: First", "First"⟩] ∧
      done.outcome.alerts.map Alert.severity = [.medium] ∧
      done.outcome.failures.map ActionFailure.error =
        ["action error: out of reach", "io error: disk full", "action error: out of reach"] ∧
      p'.engine.metrics.actionFailures = 3 := by
  have hprocess : guarded.process occasion fileEvent =
      (.ok (guarded.completed occasion fileEvent twoPolicies),
        guarded.after occasion fileEvent twoPolicies) :=
    Processor.process_of_loaded rfl rfl
  obtain ⟨-, -, hcount⟩ := enforce_regardless powerless
    (guarded.found occasion fileEvent twoPolicies) (guarded.seen occasion fileEvent)
  obtain ⟨-, hfailures⟩ := hcount _ _ _ _ _ _ hprocess
  refine ⟨_, _, hprocess, ?_, ?_, ?_, ?_, ?_, hfailures.trans ?_⟩ <;> decide +kernel

end LossPrevention.Enforcement
