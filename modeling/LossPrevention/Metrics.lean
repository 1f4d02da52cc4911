import LossPrevention.Binary64

/-!
Counters of what has been decided. They count on without end; what is shown of them are words of
64 bits.
-/

namespace LossPrevention

structure Metrics where
  eventsEvaluated : Nat := 0
  policyMatches : Nat := 0
  eventsWithMatches : Nat := 0
  policiesRejected : Nat := 0
  actionFailures : Nat := 0
  classifiedEvents : Nat := 0
  /-- Microseconds spent on classification. -/
  latency : Nat := 0
  deriving DecidableEq

namespace Metrics

/-- Counts an event that `matched` policies matched. -/
def evaluation (m : Metrics) (matched : Nat) : Metrics :=
  { m with
    eventsEvaluated := m.eventsEvaluated + 1
    policyMatches := m.policyMatches + matched
    eventsWithMatches := m.eventsWithMatches + if matched = 0 then 0 else 1 }

def rejected (m : Metrics) (n : Nat) : Metrics :=
  { m with policiesRejected := m.policiesRejected + n }

def failed (m : Metrics) (n : Nat) : Metrics :=
  { m with actionFailures := m.actionFailures + n }

def classification (m : Metrics) (micros : Nat) : Metrics :=
  { m with classifiedEvents := m.classifiedEvents + 1, latency := m.latency + micros }

def word (n : Nat) : Nat := n % Nat.pow 2 64

def shown (m : Metrics) : Metrics where
  eventsEvaluated := word m.eventsEvaluated
  policyMatches := word m.policyMatches
  eventsWithMatches := word m.eventsWithMatches
  policiesRejected := word m.policiesRejected
  actionFailures := word m.actionFailures
  classifiedEvents := word m.classifiedEvents
  latency := word m.latency

/-- The mean time of a classification in whole microseconds; zero without one. -/
def averageLatency (m : Metrics) : Nat := m.shown.latency / m.shown.classifiedEvents

/-- The share of events that some policy matched; zero without events. -/
def matchRate (m : Metrics) : Float :=
  if m.shown.eventsEvaluated = 0 then 0.0
  else Binary64.ofInt m.shown.eventsWithMatches / Binary64.ofInt m.shown.eventsEvaluated

end Metrics

end LossPrevention
