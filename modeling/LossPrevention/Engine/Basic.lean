import LossPrevention.Metrics
import LossPrevention.Policy.Directory
import LossPrevention.Policy.Match
import LossPrevention.Tracker

/-!
The engine: the active policies in the order of their rank, their windows and the counters. Each
load replaces all policies; the windows of those that stay are kept. `Engine.evaluate` says which
policies match an event.
-/

namespace LossPrevention

open Json (Value)
open Time (Instant)

namespace Engine

inductive Reason where
  | duplicate
  | fault (fault : Policy.Fault)
  | file (fault : Policy.FileFault)

def Reason.text (words : Complaints) : Reason → String
  | duplicate => "duplicate policy id"
  | fault f => (f.failure words).line
  | file f => (f.failure words).line

/-- A policy that is not loaded, under its id or the name of its file. -/
structure Rejection where
  id : String
  reason : Reason

/-- The line on a rejection with the given words for its reason. -/
def Rejection.line (id reason : String) : String := "policy '" ++ id ++ "' rejected: " ++ reason

structure PolicySet where
  policies : List Policy
  generation : Nat

def PolicySet.get? (s : PolicySet) (id : String) : Option Policy :=
  s.policies.find? (fun p => p.id = id)

structure Report where
  loaded : Nat
  rejected : List Rejection
  generation : Nat

def Report.isClean (r : Report) : Bool := r.rejected.isEmpty

/-- Sorts out the definitions that can be used and are the first ones with their ids. -/
def sift (defaultWindow : Nat) (seen : List String) :
    List Policy.Definition → List Policy × List Rejection
  | [] => ([], [])
  | d :: rest =>
      if seen.contains d.id then
        let (policies, rejected) := sift defaultWindow seen rest
        (policies, ⟨d.id, .duplicate⟩ :: rejected)
      else
        let (policies, rejected) := sift defaultWindow (d.id :: seen) rest
        match Policy.compile defaultWindow d with
        | .ok policy => (policy :: policies, rejected)
        | .error fault => (policies, ⟨d.id, .fault fault⟩ :: rejected)

/-- Descending priority; equal ones stay in the order written. -/
def ranked (policies : List Policy) : List Policy :=
  policies.mergeSort (fun a b => b.priority ≤ a.priority)

end Engine

structure Engine where
  tracker : Tracker
  /-- The length of a window that cannot be read. -/
  defaultWindow : Nat
  active : Option Engine.PolicySet := none
  metrics : Metrics := {}

namespace Engine

def ofConfig (config : Tracker.Config) : Engine where
  tracker := .ofConfig config
  defaultWindow := Window.parse config.defaultWindow

def generation (e : Engine) : Nat :=
  match e.active with
  | some set => set.generation
  | none => 0

/-- Puts the definitions in the place of all active policies. -/
def load (e : Engine) (definitions : List Policy.Definition) : Report × Engine :=
  let (accepted, rejected) := sift e.defaultWindow [] definitions
  let policies := ranked accepted
  let generation := e.generation + 1
  (⟨policies.length, rejected, generation⟩,
    { e with
      tracker := e.tracker.retain (policies.map Policy.id)
      active := some ⟨policies, generation⟩
      metrics := e.metrics.rejected rejected.length })

/-- Loads the policies of a directory; the files without one are reported last. -/
def loadDirectory (e : Engine) (items : List (String × Policy.Item)) : Report × Engine :=
  let (definitions, unreadable) := Policy.readDirectory items
  let (report, e) := e.load definitions
  ({ report with
      rejected := report.rejected ++ unreadable.map fun f => ⟨f.name, .file f.fault⟩ },
    { e with metrics := e.metrics.rejected unreadable.length })

/-- Loads the policies of a directory, given what is in it or why it cannot be listed. -/
def loadListing (e : Engine) :
    Except String (List (String × Policy.Item)) → Except Failure Report × Engine
  | .ok items =>
      let (report, e) := e.loadDirectory items
      (.ok report, e)
  | .error error => (.error ⟨.io, error⟩, e)

/-- Whether a policy matches. Only one of which the conditions hold takes note of the event. -/
def fires (now : Instant) (event : Value) (t : Tracker) (p : Policy) : Bool × Tracker :=
  if p.enabled && p.conditions.evaluate event then
    match p.stateful with
    | none => (true, t)
    | some rule => t.check now p.id rule event
  else (false, t)

/-- The policies that match, in their order, up to the first one that stops the evaluation. -/
def firing (now : Instant) (event : Value) : Tracker → List Policy → List Policy × Tracker
  | t, [] => ([], t)
  | t, p :: rest =>
      match fires now event t p with
      | (false, t) => firing now event t rest
      | (true, t) =>
          if p.stopOnMatch then ([p], t)
          else
            let (matched, t) := firing now event t rest
            (p :: matched, t)

/-- The matches of an event, or nothing before the first load. -/
def evaluate (e : Engine) (now : Instant) (event : Value) : Option (List Policy.Match × Engine) :=
  e.active.map fun set =>
    let (matched, tracker) := firing now event e.tracker set.policies
    (matched.map Policy.toMatch,
      { e with tracker, metrics := e.metrics.evaluation matched.length })

def notLoaded : Failure := ⟨.notLoaded, ""⟩

end Engine

end LossPrevention
