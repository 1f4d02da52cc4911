import LossPrevention.Processor.Basic

/-!
Processing one event and runs of a processor on a clock. An event is refused for its form, or it is
classified and then refused because there are no policies, or it is completed. A run mixes events
with loads of either kind and with movements of the clock in any direction.
-/

namespace LossPrevention.Processor

open Classifier (Classification Entropy.Order)
open Enforcement (Outcome)
open Json (Value)
open Policy (Match)
open Time (Instant)

variable {σ : Type}

/-! ### One event -/

section Process

variable (p : Processor σ) (occasion : Occasion) (event : Value) (set : Engine.PolicySet)

def verdict : Option Classification :=
  p.classification? occasion.order (Event.normalize event)

/-- The event as the policies see it. -/
def seen : Value := classified (Event.normalize event) (p.verdict occasion event)

/-- The processor that has counted the classification of an event. -/
def noted : Processor σ := p.countClassification occasion.latency (p.verdict occasion event)

def fired : List Policy × Tracker :=
  Engine.firing occasion.now (p.seen occasion event) p.engine.tracker set.policies

def found : List Match := (p.fired occasion event set).1.map Policy.toMatch

def enforced : Outcome × σ :=
  Enforcement.enforce p.executor p.memory (p.found occasion event set) (p.seen occasion event)

/-- What an event comes to under a set of policies. -/
def completed : Processed where
  event := p.annotated occasion.now (p.verdict occasion event) (p.found occasion event set)
    (p.enforced occasion event set).1 (p.seen occasion event)
  classification := p.verdict occasion event
  matched := p.found occasion event set
  outcome := (p.enforced occasion event set).1

def counted : Metrics :=
  ((p.noted occasion event).engine.metrics.evaluation (p.found occasion event set).length).failed
    (p.enforced occasion event set).1.failures.length

def recorded : Audit.Trail :=
  let done := p.completed occasion event set
  if done.matched.isEmpty then p.trail
  else p.trail.add (recordOf occasion done.event done.matched done.outcome)

/-- The processor when an event is completed. -/
def after : Processor σ :=
  { p with
    engine := { p.engine with
      tracker := (p.fired occasion event set).2
      metrics := p.counted occasion event set }
    memory := (p.enforced occasion event set).2
    trail := p.recorded occasion event set }

end Process

section Cases

variable {p : Processor σ} {occasion : Occasion} {event : Value}

theorem process_of_invalid {fault : Event.Fault} (h : Event.validate event = .error fault) :
    p.process occasion event = (.error fault.failure, p) := by
  rw [process, h]

theorem process_of_unloaded (h : Event.validate event = .ok ()) (hactive : p.engine.active = none) :
    p.process occasion event = (.error Engine.notLoaded, p.noted occasion event) := by
  have hnone :
      (p.noted occasion event).engine.evaluate occasion.now (p.seen occasion event) = none := by
    rw [Engine.evaluate, noted]
    cases p.verdict occasion event <;> simp [countClassification, hactive]
  rw [process, h]
  simp only
  rw [← verdict, ← seen, ← noted, hnone]

theorem process_of_loaded {set : Engine.PolicySet} (h : Event.validate event = .ok ())
    (hactive : p.engine.active = some set) :
    p.process occasion event =
      (.ok (p.completed occasion event set), p.after occasion event set) := by
  have hevaluate : (p.noted occasion event).engine.evaluate occasion.now (p.seen occasion event) =
      some (p.found occasion event set,
        { (p.noted occasion event).engine with
          tracker := (p.fired occasion event set).2
          metrics := (p.noted occasion event).engine.metrics.evaluation
            (p.found occasion event set).length }) := by
    rw [Engine.evaluate, found, fired, List.length_map, noted]
    cases p.verdict occasion event <;> simp [countClassification, hactive]
  rw [process, h]
  simp only
  rw [← verdict, ← seen, ← noted, hevaluate]
  simp only [after, recorded, completed, counted, enforced]
  cases hv : p.verdict occasion event <;> simp only [noted, hv, countClassification] <;> rfl

/-- Whatever comes of an event, it is one of three things. -/
theorem process_cases (p : Processor σ) (occasion : Occasion) (event : Value) :
    (∃ fault, Event.validate event = .error fault ∧
      p.process occasion event = (.error fault.failure, p)) ∨
    (Event.validate event = .ok () ∧ p.engine.active = none ∧
      p.process occasion event = (.error Engine.notLoaded, p.noted occasion event)) ∨
    (Event.validate event = .ok () ∧ ∃ set, p.engine.active = some set ∧
      p.process occasion event =
        (.ok (p.completed occasion event set), p.after occasion event set)) := by
  cases hvalid : Event.validate event with
  | error fault => exact .inl ⟨fault, rfl, process_of_invalid hvalid⟩
  | ok _ =>
      cases hactive : p.engine.active with
      | none => exact .inr (.inl ⟨rfl, rfl, process_of_unloaded hvalid hactive⟩)
      | some set => exact .inr (.inr ⟨rfl, set, rfl, process_of_loaded hvalid hactive⟩)

theorem noted_eq (p : Processor σ) (occasion : Occasion) (event : Value) :
    p.noted occasion event =
      { p with
        engine := { p.engine with metrics := (p.noted occasion event).engine.metrics } } := by
  rw [noted]
  cases p.verdict occasion event <;> rfl

/-- No event changes where the content is looked for or which policies are in force. -/
theorem process_keeps (p : Processor σ) (occasion : Occasion) (event : Value) :
    (p.process occasion event).2.contentField = p.contentField ∧
      (p.process occasion event).2.engine.active = p.engine.active := by
  rcases process_cases p occasion event with ⟨_, -, hp⟩ | ⟨-, -, hp⟩ | ⟨-, _, -, hp⟩
  · rw [hp]
    exact ⟨rfl, rfl⟩
  · rw [hp, noted_eq]
    exact ⟨rfl, rfl⟩
  · rw [hp]
    exact ⟨rfl, rfl⟩

end Cases

/-! ### The order of a sum -/

inductive Step where
  | load (definitions : List Policy.Definition)
  /-- A directory, unless it cannot be listed. -/
  | loadListing (listing : Except String (List (String × Policy.Item)))
  | process (event : Value) (order : Entropy.Order) (recordId : String) (recordTime : Instant)
      (latency : Nat)
  | setClock (now : Instant)

inductive Answer where
  | loaded (result : Except Failure Engine.Report)
  | processed (result : Except Failure Processed)
  | clock

structure Clocked (σ : Type) where
  processor : Processor σ
  now : Instant

/-- One step of a run and what came of it. -/
structure Moment (σ : Type) where
  step : Step
  answer : Answer
  after : Clocked σ

namespace Clocked

def step (s : Clocked σ) : Step → Answer × Clocked σ
  | .load definitions =>
      let (report, engine) := s.processor.engine.load definitions
      (.loaded (.ok report), { s with processor := { s.processor with engine } })
  | .loadListing listing =>
      let (result, engine) := s.processor.engine.loadListing listing
      (.loaded result, { s with processor := { s.processor with engine } })
  | .process event order recordId recordTime latency =>
      let (result, processor) :=
        s.processor.process { now := s.now, order, recordId, recordTime, latency } event
      (.processed result, { s with processor })
  | .setClock now => (.clock, { s with now })

theorem contentField_step (s : Clocked σ) (x : Step) :
    (s.step x).2.processor.contentField = s.processor.contentField := by
  cases x with
  | load definitions => rfl
  | loadListing listing => rfl
  | process event order recordId recordTime latency =>
      exact (process_keeps s.processor ⟨s.now, order, recordId, recordTime, latency⟩ event).1
  | setClock now => rfl

def moment (s : Clocked σ) (x : Step) : Moment σ := ⟨x, (s.step x).1, (s.step x).2⟩

def moments : Clocked σ → List Step → List (Moment σ)
  | _, [] => []
  | s, x :: rest => s.moment x :: moments (s.step x).2 rest

def run (s : Clocked σ) (steps : List Step) : Clocked σ := steps.foldl (fun s x => (s.step x).2) s

@[simp] theorem run_nil (s : Clocked σ) : s.run [] = s := rfl

@[simp] theorem run_cons (s : Clocked σ) (x : Step) (steps : List Step) :
    s.run (x :: steps) = (s.step x).2.run steps := rfl

end Clocked

end LossPrevention.Processor
