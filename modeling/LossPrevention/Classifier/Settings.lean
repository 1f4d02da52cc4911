import LossPrevention.Classifier.Basic
import LossPrevention.Document.Fields

/-!
The settings of a classifier as they are written, and its results as JSON.
-/

namespace LossPrevention.Classifier

open Json (Number Value)

def Config.fieldNames : List String :=
  ["entropy_threshold", "entropy_score", "scorer_threshold", "scorer_weight", "keywords",
    "fingerprints"]

def Config.schema : Document.Schema := .record fieldNames

def Config.ofDocument? (d : Document) : Option Config := do
  match ← d.fields? (fieldNames.map ([·])) with
  | [entropyThreshold, entropyScore, scorerThreshold, scorerWeight, keywords, fingerprints] =>
      let c : Config := {}
      let entropyThreshold ← Document.orElse? c.entropyThreshold Document.asFloat? entropyThreshold
      let entropyScore ← Document.orElse? c.entropyScore Document.asFloat? entropyScore
      let scorerThreshold ← Document.orElse? c.scorerThreshold Document.asFloat? scorerThreshold
      let scorerWeight ← Document.orElse? c.scorerWeight Document.asFloat? scorerWeight
      let keywords ← Document.orElse? c.keywords
        (Document.asMap? (Document.asList? Document.asText?)) keywords
      let fingerprints ← Document.orElse? c.fingerprints (Document.asList? Document.asText?)
        fingerprints
      some { entropyThreshold, entropyScore, scorerThreshold, scorerWeight, keywords, fingerprints }
  | _ => none

/-- A number as far as JSON can write it. -/
def amount (x : Float) : Value :=
  if Binary64.isFinite x then .number (.float x) else .null

namespace Classification

def countsValue (c : Classification) : Value :=
  .ofFields (c.labelCounts.map fun (label, n) => (label, .ofNat n))

/-- The classification with `write` for its computed numbers. -/
def toValueWith (write : Float → Value) (c : Classification) : Value :=
  .ofFields [
    ("score", write c.score),
    ("labels", .textList c.labels),
    ("confidence", write c.confidence),
    ("entropy", write c.entropy),
    ("methods", .textList c.methods),
    ("label_counts", c.countsValue)]

def toValue (c : Classification) : Value := c.toValueWith amount

end Classification

end LossPrevention.Classifier
