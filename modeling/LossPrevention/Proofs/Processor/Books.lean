import LossPrevention.Proofs.Audit.Chain
import LossPrevention.Proofs.Processor.Run
import Mathlib.Algebra.Ring.Nat

/-!
The books of a processor: its counters and its trail. After any run they are what adds up from the
answers that the run has given.
-/

namespace LossPrevention.Processor

open Classifier (Entropy.Order)
open Json (Value)
open Policy (Match)
open Time (Instant)

variable {σ : Type}

/-! ### What the answers tell -/

namespace Moment

def done? (m : Moment σ) : Option Processed :=
  match m.answer with
  | .processed (.ok done) => some done
  | _ => none

def report? (m : Moment σ) : Option Engine.Report :=
  match m.answer with
  | .loaded (.ok report) => some report
  | _ => none

/-- Whether an event was completed that some policy matches. -/
def isMatch (m : Moment σ) : Bool := m.done?.any (fun done => !done.matched.isEmpty)

/-- Whether it was the turn of a well-formed event with a text to classify. -/
def classifies (path : FieldPath) (m : Moment σ) : Bool :=
  match m.step with
  | .process event _ _ _ _ =>
      Event.validate event = .ok () && (content? path (Event.normalize event)).isSome
  | _ => false

/-- The record of the policies that match an event. -/
def Tells (m : Moment σ) (r : Audit.Record) : Prop :=
  match m.step, m.answer with
  | .process _ _ recordId recordTime _, .processed (.ok done) =>
      r.id = recordId ∧ r.time = recordTime ∧ r.subject = some (Event.idOf done.event) ∧
        r.policyIds = done.matched.map Match.policyId
  | _, _ => False

end Moment

/-- The counters are those of a run with these moments. -/
structure Counted (path : FieldPath) (past : List (Moment σ)) (metrics : Metrics) : Prop where
  evaluated : metrics.eventsEvaluated = (past.filterMap Moment.done?).length
  found : metrics.policyMatches =
    ((past.filterMap Moment.done?).map fun done => done.matched.length).sum
  matching : metrics.eventsWithMatches = (past.filter Moment.isMatch).length
  failures : metrics.actionFailures =
    ((past.filterMap Moment.done?).map fun done => done.outcome.failures.length).sum
  rejected : metrics.policiesRejected =
    ((past.filterMap Moment.report?).map fun report => report.rejected.length).sum
  classified : metrics.classifiedEvents = (past.filter (Moment.classifies path)).length

/-- What one moment adds to the counters. -/
structure Adds (path : FieldPath) (m : Moment σ) (before after : Metrics) : Prop where
  evaluated : after.eventsEvaluated = before.eventsEvaluated + m.done?.toList.length
  found : after.policyMatches =
    before.policyMatches + (m.done?.elim 0 fun done => done.matched.length)
  matching : after.eventsWithMatches = before.eventsWithMatches + if m.isMatch then 1 else 0
  failures : after.actionFailures =
    before.actionFailures + (m.done?.elim 0 fun done => done.outcome.failures.length)
  rejected : after.policiesRejected =
    before.policiesRejected + (m.report?.elim 0 fun report => report.rejected.length)
  classified : after.classifiedEvents =
    before.classifiedEvents + if m.classifies path then 1 else 0

theorem counted_append {path : FieldPath} {past : List (Moment σ)} {m : Moment σ}
    {before after : Metrics} (h : Counted path past before) (hm : Adds path m before after) :
    Counted path (past ++ [m]) after where
  evaluated := by
    rw [hm.evaluated, h.evaluated, List.filterMap_append, List.length_append]
    cases hd : m.done? <;> simp [hd]
  found := by
    rw [hm.found, h.found, List.filterMap_append, List.map_append, List.sum_append]
    cases hd : m.done? <;> simp [hd]
  matching := by
    rw [hm.matching, h.matching, List.filter_append, List.length_append]
    cases hd : m.isMatch <;> simp [hd]
  failures := by
    rw [hm.failures, h.failures, List.filterMap_append, List.map_append, List.sum_append]
    cases hd : m.done? <;> simp [hd]
  rejected := by
    rw [hm.rejected, h.rejected, List.filterMap_append, List.map_append, List.sum_append]
    cases hd : m.report? <;> simp [hd]
  classified := by
    rw [hm.classified, h.classified, List.filter_append, List.length_append]
    cases hd : m.classifies path <;> simp [hd]

/-! ### What a step adds -/

theorem metrics_noted (p : Processor σ) (occasion : Occasion) (event : Value) :
    (p.noted occasion event).engine.metrics =
      if (content? p.contentField (Event.normalize event)).isSome then
        p.engine.metrics.classification occasion.latency
      else p.engine.metrics := by
  rw [noted, verdict, classification?]
  cases content? p.contentField (Event.normalize event) <;> rfl

theorem adds_process {p p' : Processor σ} {occasion : Occasion} {event : Value}
    {result : Except Failure Processed} (h : p.process occasion event = (result, p'))
    (order : Entropy.Order) (recordId : String) (recordTime : Instant) (latency : Nat)
    (after : Clocked σ) :
    Adds p.contentField ⟨.process event order recordId recordTime latency, .processed result, after⟩
      p.engine.metrics p'.engine.metrics := by
  rcases process_cases p occasion event with
    ⟨fault, hinvalid, hp⟩ | ⟨hvalid, -, hp⟩ | ⟨hvalid, set, -, hp⟩
  · cases h.symm.trans hp
    refine ⟨rfl, rfl, rfl, rfl, rfl, ?_⟩
    simp [Moment.classifies, hinvalid]
  · cases h.symm.trans hp
    rw [metrics_noted]
    cases hc : (content? p.contentField (Event.normalize event)).isSome
    · refine ⟨rfl, rfl, rfl, rfl, rfl, ?_⟩
      simp [Moment.classifies, hvalid, hc]
    · refine ⟨rfl, rfl, rfl, rfl, rfl, ?_⟩
      simp [Moment.classifies, hvalid, hc, Metrics.classification]
  · cases h.symm.trans hp
    have hmetrics : (p.after occasion event set).engine.metrics = p.counted occasion event set :=
      rfl
    have hmatch : (if (p.found occasion event set).length = 0 then 0 else 1) =
        if !(p.found occasion event set).isEmpty then 1 else 0 := by
      cases p.found occasion event set <;> rfl
    rw [hmetrics, counted, metrics_noted]
    cases hc : (content? p.contentField (Event.normalize event)).isSome
    · refine ⟨rfl, rfl, congrArg _ hmatch, rfl, rfl, ?_⟩
      simp [Moment.classifies, hvalid, hc, Metrics.evaluation, Metrics.failed]
    · refine ⟨rfl, rfl, congrArg _ hmatch, rfl, rfl, ?_⟩
      simp [Moment.classifies, hvalid, hc, Metrics.evaluation, Metrics.failed,
        Metrics.classification]

theorem adds_step (s : Clocked σ) (x : Step) :
    Adds s.processor.contentField (s.moment x) s.processor.engine.metrics
      (s.step x).2.processor.engine.metrics := by
  cases x with
  | load definitions => exact ⟨rfl, rfl, rfl, rfl, rfl, rfl⟩
  | loadListing listing =>
      cases listing with
      | error error => exact ⟨rfl, rfl, rfl, rfl, rfl, rfl⟩
      | ok items =>
          refine ⟨rfl, rfl, rfl, rfl, ?_, rfl⟩
          -- the files without a policy are counted apart from the policies that are refused
          simp [Clocked.moment, Clocked.step, Moment.report?, Engine.loadListing,
            Engine.loadDirectory, Engine.load, Metrics.rejected, Nat.add_assoc]
  | process event order recordId recordTime latency => exact adds_process rfl _ _ _ _ _
  | setClock now => exact ⟨rfl, rfl, rfl, rfl, rfl, rfl⟩

/-- A record is made just of the events that some policy matches. -/
theorem trail_process {p p' : Processor σ} {occasion : Occasion} {event : Value}
    {result : Except Failure Processed} (h : p.process occasion event = (result, p'))
    (order : Entropy.Order) (latency : Nat) (after : Clocked σ) :
    let m : Moment σ := ⟨.process event order occasion.recordId occasion.recordTime latency,
      .processed result, after⟩
    m.isMatch = false ∧ p'.trail = p.trail ∨
      m.isMatch = true ∧ ∃ r, m.Tells r ∧ p'.trail = p.trail.add r := by
  intro m
  rcases process_cases p occasion event with ⟨fault, -, hp⟩ | ⟨-, -, hp⟩ | ⟨-, set, -, hp⟩
  · cases h.symm.trans hp
    exact .inl ⟨rfl, rfl⟩
  · cases h.symm.trans hp
    refine .inl ⟨rfl, ?_⟩
    rw [noted_eq]
  · cases h.symm.trans hp
    have htrail : (p.after occasion event set).trail =
        if (p.found occasion event set).isEmpty then p.trail
        else p.trail.add (recordOf occasion (p.completed occasion event set).event
          (p.found occasion event set) (p.enforced occasion event set).1) := rfl
    have hmatch : m.isMatch = !(p.found occasion event set).isEmpty := rfl
    cases hempty : (p.found occasion event set).isEmpty
    · rw [hempty] at htrail hmatch
      exact .inr ⟨hmatch, _, ⟨rfl, rfl, rfl, rfl⟩, htrail⟩
    · rw [hempty] at htrail hmatch
      exact .inl ⟨hmatch, htrail⟩

theorem trail_step (s : Clocked σ) (x : Step) :
    (s.moment x).isMatch = false ∧ (s.step x).2.processor.trail = s.processor.trail ∨
      (s.moment x).isMatch = true ∧ ∃ r, (s.moment x).Tells r ∧
        (s.step x).2.processor.trail = s.processor.trail.add r := by
  cases x with
  | load definitions => exact .inl ⟨rfl, rfl⟩
  | loadListing listing => cases listing <;> exact .inl ⟨rfl, rfl⟩
  | process event order recordId recordTime latency =>
      let occasion : Occasion := ⟨s.now, order, recordId, recordTime, latency⟩
      have hp : s.processor.process occasion event = ((s.processor.process occasion event).1,
        (s.processor.process occasion event).2) := rfl
      exact trail_process hp _ _ _
  | setClock now => exact .inl ⟨rfl, rfl⟩

/-! ### Runs -/

/-- How a processor stands that was `start` before these moments. -/
structure Books (start : Processor σ) (past : List (Moment σ)) (p : Processor σ) : Prop where
  contentField : p.contentField = start.contentField
  limit : p.trail.limit = start.trail.limit
  counted : Counted start.contentField past p.engine.metrics
  recorded : ∃ added, Audit.Trail.Holds Sha256.hex added p.trail ∧
    List.Forall₂ Moment.Tells (past.filter Moment.isMatch) added

theorem tells_linkedWith {m : Moment σ} {r : Audit.Record} (h : m.Tells r)
    (hash : List UInt8 → String) (t : Audit.Trail) : m.Tells (t.linkedWith hash r) := h

theorem books_step {start : Processor σ} {past : List (Moment σ)} {s : Clocked σ}
    (h : Books start past s.processor) (x : Step) :
    Books start (past ++ [s.moment x]) (s.step x).2.processor where
  contentField := (Clocked.contentField_step s x).trans h.contentField
  limit := by
    rcases trail_step s x with ⟨-, ht⟩ | ⟨-, r, -, ht⟩
    · rw [ht, h.limit]
    · rw [ht, ← h.limit]
      rfl
  counted := counted_append h.counted (h.contentField ▸ adds_step s x)
  recorded := by
    obtain ⟨added, hholds, htells⟩ := h.recorded
    rw [List.filter_append]
    rcases trail_step s x with ⟨hm, ht⟩ | ⟨hm, r, hr, ht⟩
    · refine ⟨added, ht ▸ hholds, ?_⟩
      rw [List.filter_singleton, hm]
      simpa using htells
    · refine ⟨added ++ [s.processor.trail.linkedWith Sha256.hex r],
        ht ▸ Audit.Trail.holds_add hholds r, ?_⟩
      rw [List.filter_singleton, hm]
      exact List.rel_append htells (.cons (tells_linkedWith hr _ _) .nil)

theorem books_run {start : Processor σ} {past : List (Moment σ)} {s : Clocked σ}
    (h : Books start past s.processor) (steps : List Step) :
    Books start (past ++ s.moments steps) (s.run steps).processor := by
  induction steps generalizing past s with
  | nil => simpa [Clocked.moments] using h
  | cons x rest ih =>
      rw [Clocked.moments, Clocked.run_cons, List.append_cons]
      exact ih (books_step h x)

structure Fit (metrics : Metrics) : Prop where
  evaluated : metrics.eventsEvaluated < Nat.pow 2 64
  found : metrics.policyMatches < Nat.pow 2 64
  matching : metrics.eventsWithMatches < Nat.pow 2 64
  failures : metrics.actionFailures < Nat.pow 2 64
  rejected : metrics.policiesRejected < Nat.pow 2 64
  classified : metrics.classifiedEvents < Nat.pow 2 64

theorem counted_shown {path : FieldPath} {past : List (Moment σ)} {metrics : Metrics}
    (h : Counted path past metrics) (hfit : Fit metrics) : Counted path past metrics.shown where
  evaluated := (Nat.mod_eq_of_lt hfit.evaluated).trans h.evaluated
  found := (Nat.mod_eq_of_lt hfit.found).trans h.found
  matching := (Nat.mod_eq_of_lt hfit.matching).trans h.matching
  failures := (Nat.mod_eq_of_lt hfit.failures).trans h.failures
  rejected := (Nat.mod_eq_of_lt hfit.rejected).trans h.rejected
  classified := (Nat.mod_eq_of_lt hfit.classified).trans h.classified

theorem create_eq_ok {classifier : Classifier} {engine : Engine} {executor : Enforcement.Executor σ}
    {memory : σ} {config : Config} {p : Processor σ}
    (h : create classifier engine executor memory config = .ok p) :
    p.engine = engine ∧ p.trail = .empty config.maxAuditRecords := by
  rw [create] at h
  cases hpath : config.path with
  | error failure =>
      rw [hpath] at h
      cases h
  | ok path =>
      rw [hpath] at h
      cases h
      exact ⟨rfl, rfl⟩

theorem books_start {classifier : Classifier} {tracker : Tracker.Config}
    {executor : Enforcement.Executor σ} {memory : σ} {config : Config} {p : Processor σ}
    (h : create classifier (Engine.ofConfig tracker) executor memory config = .ok p) :
    Books p [] p := by
  obtain ⟨hengine, htrail⟩ := create_eq_ok h
  refine ⟨rfl, rfl, ?_, [], ?_, .nil⟩
  · rw [hengine]
    exact ⟨rfl, rfl, rfl, rfl, rfl, rfl⟩
  · rw [htrail]
    exact Audit.Trail.holds_empty _

/-- After any run of a new processor the counters are what the answers add up to, also as they are
shown as long as they fit into words, and the trail is a valid one of the last events that some
policy matched. -/
theorem books_balance {classifier : Classifier} {tracker : Tracker.Config}
    {executor : Enforcement.Executor σ} {memory : σ} {config : Config} {p : Processor σ}
    (h : create classifier (Engine.ofConfig tracker) executor memory config = .ok p)
    (now : Instant) (steps : List Step) :
    let past := (⟨p, now⟩ : Clocked σ).moments steps
    let q := ((⟨p, now⟩ : Clocked σ).run steps).processor
    let matching := past.filter Moment.isMatch
    let limit := max 1 config.maxAuditRecords
    Counted p.contentField past q.engine.metrics ∧
      (Fit q.engine.metrics → Counted p.contentField past q.engine.metrics.shown) ∧
      q.engine.metrics.eventsWithMatches = q.trail.length + q.trail.evicted ∧
      q.trail.length = min matching.length limit ∧
      List.Forall₂ Moment.Tells (matching.drop (matching.length - limit)) q.trail.records ∧
      q.trail.verify = true := by
  intro past q matching limit
  have hbooks : Books p past q := books_run (s := ⟨p, now⟩) (books_start h) steps
  obtain ⟨added, hholds, htells⟩ := hbooks.recorded
  have hlength : matching.length = added.length := htells.length_eq
  have hlimit : q.trail.limit = limit := by
    rw [hbooks.limit, (create_eq_ok h).2]
    rfl
  have hkept : q.trail.length = min matching.length limit := by
    rw [hlength, ← hlimit]
    exact Audit.Trail.length_records hholds
  refine ⟨hbooks.counted, counted_shown hbooks.counted, ?_, hkept, ?_,
    Audit.Trail.verifyWith_of_holds hholds⟩
  · have hmatching : q.engine.metrics.eventsWithMatches = matching.length := hbooks.counted.matching
    rw [hmatching, hkept, hholds.evicted_eq, ← hlength, hlimit]
    omega
  · rw [hlength, ← hlimit, hholds.records_eq]
    exact List.forall₂_drop _ htells

def forgetful : Processor Unit where
  classifier := {}
  engine := .ofConfig {}
  executor := Enforcement.Executor.accepting
  memory := ()
  config := { maxAuditRecords := 0 }
  contentField := ⟨"content", []⟩
  trail := .empty 0

/-- A policy that matches every event, and two events after it is loaded. -/
def twoEvents : List Step :=
  let always : Policy.Definition := { id := "always", name := "Always", conditions := .all [] }
  let event : Value :=
    .object [("event", .object [("severity", .text "low"), ("type", .text "file")])]
  [.load [always], .process event .asWritten "first" ⟨0, 0⟩ 0,
    .process event .asWritten "second" ⟨1, 0⟩ 0]

theorem books_balance_two :
    create {} (Engine.ofConfig {}) Enforcement.Executor.accepting () { maxAuditRecords := 0 } =
        .ok forgetful ∧
      let q := ((⟨forgetful, ⟨0, 0⟩⟩ : Clocked Unit).run twoEvents).processor
      q.engine.metrics.eventsWithMatches = 2 ∧ q.trail.length = 1 ∧ q.trail.verify = true := by
  have hcreate : create {} (Engine.ofConfig {}) Enforcement.Executor.accepting ()
      { maxAuditRecords := 0 } = .ok forgetful := rfl
  have hmatching : (((⟨forgetful, ⟨0, 0⟩⟩ : Clocked Unit).moments twoEvents).filter
      Moment.isMatch).length = 2 := by
    decide +kernel
  obtain ⟨hcounted, -, -, hlength, -, hverify⟩ := books_balance hcreate ⟨0, 0⟩ twoEvents
  rw [hmatching] at hlength
  exact ⟨hcreate, hcounted.matching.trans hmatching, hlength, hverify⟩

end LossPrevention.Processor
