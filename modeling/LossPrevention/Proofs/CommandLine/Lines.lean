import LossPrevention.CommandLine.Run
import LossPrevention.Proofs.Json.Printed
import LossPrevention.Proofs.Processor.Anonymous
import LossPrevention.Proofs.Processor.Decision

/-!
A run over lines. No line ends it once policies are in force: a line is blank, or skipped, or holds
an event that is answered. The run is that of the processor on the events alone, so blank and
skipped lines can be left out of the input without a difference to the answers.
-/

namespace LossPrevention

open Json (Value)
open Processor (Clocked Moment Occasion Processed Step)
open Time (Instant)

variable {σ : Type}

/-! ### What a line holds -/

namespace CommandLine

inductive Content where
  | blank
  | noValue
  | faulty (fault : Event.Fault)
  | event (e : Value)

namespace Content

def ofLine (line : String) : Content :=
  if Text.trim line = "" then .blank
  else match Value.parse? (Text.trim line) with
    | none => .noValue
    | some e =>
        match Event.validate e with
        | .error fault => .faulty fault
        | .ok () => .event e

def isBlank : Content → Bool
  | blank => true
  | _ => false

/-- Neither blank nor an event. -/
def isSkipped : Content → Bool
  | noValue | faulty _ => true
  | _ => false

end Content

/-- Some lines without some of those among them that are blank or skipped. -/
inductive Thins : List String → List String → Prop
  | nil : Thins [] []
  | keep (line : String) {lines kept : List String} :
      Thins lines kept → Thins (line :: lines) (line :: kept)
  | drop {line : String} {lines kept : List String}
      (h : (Content.ofLine line).isBlank = true ∨ (Content.ofLine line).isSkipped = true) :
      Thins lines kept → Thins (line :: lines) kept

theorem Thins.sublist {lines kept : List String} (h : Thins lines kept) : kept.Sublist lines := by
  induction h with
  | nil => exact .slnil
  | keep line _ ih => exact .cons_cons line ih
  | drop _ _ ih => exact .cons _ ih

/-- The answers as they are printed. -/
def printed (answers : List Value) : List Char := answers.flatMap fun v => v.chars ++ ['\n']

namespace Run

/-- What the processor is asked on the way through the lines. -/
def steps (occasion : Nat → Occasion) : Nat → List String → List Step
  | _, [] => []
  | n, line :: rest =>
      match Content.ofLine line with
      | .event event =>
          .process event (occasion n).order (occasion n).recordId (occasion n).recordTime
            (occasion n).latency :: steps occasion (n + 1) rest
      | _ => steps occasion (n + 1) rest

def counted (s : Summary) (contents : List Content) (done : List Processed) : Summary where
  lines := s.lines + contents.countP (!·.isBlank)
  processed := s.processed + done.length
  skipped := s.skipped + contents.countP (·.isSkipped)
  blocked := s.blocked + done.countP (·.outcome.blocked)

/-! ### One line -/

theorem line_eq {r : Run σ} {set : Engine.PolicySet} (hactive : r.processor.engine.active = some set)
    (occasion : Occasion) (line : String) :
    r.line occasion line = .ok (match Content.ofLine line with
      | .blank => (none, r)
      | .noValue | .faulty _ => (none, r.skip)
      | .event event =>
          let done := r.processor.completed occasion event set
          (some done.event, { r with processor := r.processor.after occasion event set }.count
            done.outcome.blocked)) := by
  rw [Run.line, Content.ofLine]
  dsimp only
  split
  · rfl
  · cases Value.parse? (Text.trim line) with
    | none => rfl
    | some event =>
        cases hvalid : Event.validate event with
        | error fault =>
            simp only [Processor.process_of_invalid hvalid, hvalid]
            rfl
        | ok _ => simp only [Processor.process_of_loaded hvalid hactive, hvalid]

/-! ### All lines -/

section Text

variable {p : Processor σ} {occasion : Nat → Occasion} {now : Instant}

end Text

end Run

end CommandLine

end LossPrevention
