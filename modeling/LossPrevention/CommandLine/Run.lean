import LossPrevention.CommandLine.Settings
import LossPrevention.Processor.Basic

/-!
A run of the program: it starts with settings and policies, and then answers each line that holds
an event with the processed event. Blank lines do not count; lines without an event are skipped.
-/

namespace LossPrevention.CommandLine

open Json (Value)

inductive Node where
  | missing
  | directory (items : List (String × Policy.Item))
  | file (content : String)
  /-- A file that is no text or cannot be read. -/
  | unreadable

inductive Abort where
  | settings (path : String)
  | policies (path : String)
  | input (path : String)
  /-- Lines cannot be read from a directory. -/
  | inputIsDirectory
  | failure (f : Failure)

def Abort.message : Abort → String
  | settings path => "failed to load configuration from " ++ path
  | policies path => "failed to read policies from " ++ path
  | input path => "failed to open " ++ path
  | inputIsDirectory => "Is a directory (os error 21)"
  | failure f => f.line

/-- A missing file of settings stands for the default ones. -/
def settingsOf (a : Arguments) (node : Node) : Except Abort Settings :=
  match node with
  | .missing => .ok (({} : Settings).override a)
  | .file text =>
      match Settings.ofText? text with
      | some s => .ok (s.override a)
      | none => .error (.settings a.config)
  | .directory _ | .unreadable => .error (.settings a.config)

/-- The policies have been loaded by the time the other settings are looked at. -/
structure Start where
  settings : Settings
  report : Engine.Report
  processor : Except Failure (Processor Unit)

def startWith (settings : Settings) (node : Node) : Except Abort Start :=
  match node with
  | .directory items =>
      let (report, engine) := (Engine.ofConfig settings.tracker).loadDirectory items
      let classifier := Classifier.ofConfig settings.classifier
      .ok {
        settings
        report
        processor := Processor.create classifier engine .accepting () settings.processor }
  | .missing | .file _ | .unreadable => .error (.policies settings.policiesDir)

/-- Starts a run where `look` tells what a path leads to. -/
def start {m : Type → Type} [Monad m] (look : String → m Node) (a : Arguments) :
    m (Except Abort Start) := do
  match settingsOf a (← look a.config) with
  | .error abort => return .error abort
  | .ok settings => return startWith settings (← look settings.policiesDir)

structure Summary where
  lines : Nat := 0
  processed : Nat := 0
  skipped : Nat := 0
  blocked : Nat := 0
  deriving DecidableEq

structure Run (σ : Type) where
  processor : Processor σ
  summary : Summary := {}

namespace Run

variable {σ : Type}

def skip (r : Run σ) : Run σ :=
  { r with summary := { r.summary with
      lines := r.summary.lines + 1
      skipped := r.summary.skipped + 1 } }

def count (r : Run σ) (blocked : Bool) : Run σ :=
  { r with summary := { r.summary with
      lines := r.summary.lines + 1
      processed := r.summary.processed + 1
      blocked := r.summary.blocked + if blocked then 1 else 0 } }

/-- Answers a line with an event, or not at all. -/
def line (r : Run σ) (occasion : Processor.Occasion) (text : String) :
    Except Failure (Option Value × Run σ) :=
  let trimmed := Text.trim text
  if trimmed = "" then .ok (none, r)
  else match Value.parse? trimmed with
    | none => .ok (none, r.skip)
    | some event =>
        match r.processor.process occasion event with
        | (.ok processed, processor) =>
            .ok (some processed.event, { r with processor }.count processed.outcome.blocked)
        | (.error failure, processor) =>
            if failure.category = .invalidEvent then .ok (none, { r with processor }.skip)
            else .error failure

/-- Answers all lines in their order, each on the occasion of its place. -/
def lines (occasion : Nat → Processor.Occasion) :
    Nat → Run σ → List String → Except Failure (List Value × Run σ)
  | _, r, [] => .ok ([], r)
  | n, r, text :: rest => do
      let (answer, r) ← r.line (occasion n) text
      let (answers, r) ← lines occasion (n + 1) r rest
      return (answer.toList ++ answers, r)

def text (occasion : Nat → Processor.Occasion) (r : Run σ) (input : String) :
    Except Failure (List Value × Run σ) :=
  lines occasion 0 r ((Text.pieces '\n' input.toList).map String.ofList)

end Run

end LossPrevention.CommandLine
