import LossPrevention.CommandLine.LogFilter
import LossPrevention.CommandLine.Run

/-!
What the program says of itself on the side: a message with numbers. One record says how many
policies were loaded, one at the end what came of the lines.
-/

namespace LossPrevention.CommandLine

open Json (Value)
open Time (Instant)

structure LogRecord where
  message : String
  numbers : List (String × Nat)

namespace LogRecord

def fieldNames (r : LogRecord) : List String := "message" :: r.numbers.map Prod.fst

def toText (r : LogRecord) (time : Instant) : String :=
  " ".intercalate ([time.zuluText, "INFO", LogFilter.ownSource ++ ":", r.message] ++
    r.numbers.map fun (name, n) => name ++ "=" ++ toString n)

def toValue (r : LogRecord) (time : Instant) : Value :=
  .ofFields [
    ("timestamp", .text time.zuluText),
    ("level", .text "INFO"),
    ("target", .text LogFilter.ownSource),
    ("fields", .ofFields (("message", .text r.message) ::
      r.numbers.map fun (name, n) => (name, .ofNat n)))]

def render (r : LogRecord) (format : LogFormat) (time : Instant) : String :=
  match format with
  | .text => r.toText time
  | .json => (r.toValue time).compact

end LogRecord

def Start.record (s : Start) : LogRecord :=
  ⟨"Policies loaded", [("loaded", s.report.loaded), ("rejected", s.report.rejected.length)]⟩

def Run.record {σ : Type} (r : Run σ) : LogRecord :=
  let metrics := r.processor.engine.metrics.shown
  ⟨"Evaluation complete", [
    ("lines", r.summary.lines),
    ("processed", r.summary.processed),
    ("skipped", r.summary.skipped),
    ("blocked", r.summary.blocked),
    ("policy_matches", metrics.policyMatches),
    ("action_failures", metrics.actionFailures),
    ("avg_classification_us", metrics.averageLatency),
    ("audit_records", r.processor.trail.length),
    ("audit_evicted", r.processor.trail.evicted)]⟩

end LossPrevention.CommandLine
