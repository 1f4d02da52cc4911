import LossPrevention.Classifier.Catalogue
import LossPrevention.Classifier.Entropy
import LossPrevention.Classifier.Fingerprints
import LossPrevention.Classifier.Keywords

/-!
The classifier. Five sources look at a text, each for itself: known documents, the catalogue of
patterns, entropy, keywords and a scorer. What they contribute is added up to a classification.
-/

namespace LossPrevention.Classifier

structure Config where
  entropyThreshold : Float := 3.5
  entropyScore : Float := 0.7
  scorerThreshold : Float := 0.75
  scorerWeight : Float := 0.8
  keywords : List (String × List String) := []
  fingerprints : List String := []

/-- What a scorer says of a text. -/
structure Verdict where
  score : Float
  label : String

inductive Method where
  | fingerprint
  | regex
  | entropy
  | keyword
  | scorer
  deriving DecidableEq

def Method.name : Method → String
  | fingerprint => "fingerprint"
  | regex => "regex"
  | entropy => "entropy"
  | keyword => "keyword"
  | scorer => "scorer"

/-- What one source adds. -/
structure Contribution where
  method : Method
  score : Float
  labels : List String
  counts : List (String × Nat) := []

structure Classification where
  score : Float
  labels : List String
  confidence : Float
  entropy : Float
  methods : List String
  labelCounts : List (String × Nat)

def Classification.isSensitive (c : Classification) : Bool := !c.labels.isEmpty

def knownDocument : String := "KNOWN_SENSITIVE_DOC"

def highEntropy : String := "HIGH_ENTROPY"

/-- The lesser one; `limit` if `x` is not a number. -/
def atMost (limit x : Float) : Float := if x < limit then x else limit

/-- The greater one; `x` if `y` is not a number. -/
def greater (x y : Float) : Float := if x < y then y else x

/-- The score of a source whose most frequent label was found `n` times. -/
def densityScore (n : Nat) : Float := atMost 0.95 (0.9 * n.toFloat / 5.0)

/-- The mean of the scores, raised by agreement of several sources and lowered by a spread of
labels. -/
def confidence (scores : List Float) (labels : Nat) : Float :=
  if scores.isEmpty then 0.0
  else
    let mean := scores.foldl (· + ·) (-0.0) / scores.length.toFloat
    let agreement := 0.7 + 0.15 * (min scores.length 3).toFloat / 3.0
    let consistency := 1.0 / (1.0 + 0.1 * labels.toFloat)
    atMost 1.0 (mean * agreement * consistency)

end Classifier

structure Classifier where
  config : Classifier.Config := {}
  known : Classifier.Fingerprints := {}
  scorer : Option (List Char → Classifier.Verdict) := none

namespace Classifier

def ofConfig (config : Config) : Classifier :=
  { config, known := Fingerprints.ofDigests config.fingerprints }

/-- Uses a registry of its own in which the configured digests are put, too. -/
def withKnown (c : Classifier) (known : Fingerprints) : Classifier :=
  { c with known := known.addAll c.config.fingerprints }

def register (c : Classifier) (document : String) : Classifier :=
  { c with known := c.known.add (Sha256.ofText document) }

def fromFingerprint (c : Classifier) (content : List Char) : Option Contribution :=
  if !content.isEmpty && !c.known.isEmpty &&
      c.known.contains (Sha256.ofText (String.ofList content)) then
    some { method := .fingerprint, score := 1.0, labels := [knownDocument] }
  else none

def fromCounts (method : Method) (counts : List (String × Nat)) : Option Contribution :=
  (counts.map Prod.snd).max?.map fun n =>
    { method, score := densityScore n, labels := Keyed.keys counts, counts }

def fromPatterns (content : List Char) : Option Contribution :=
  fromCounts .regex (Catalogue.detect content).counts

def fromEntropy (c : Classifier) (order : Entropy.Order) (content : List Char) :
    Option Contribution :=
  if c.config.entropyThreshold < Entropy.shannon order content then
    some { method := .entropy, score := c.config.entropyScore, labels := [highEntropy] }
  else none

def fromKeywords (c : Classifier) (content : List Char) : Option Contribution :=
  fromCounts .keyword (Keywords.detect (Keywords.ofEntries c.config.keywords) content)

def fromScorer (c : Classifier) (content : List Char) : Option Contribution :=
  c.scorer.bind fun scorer =>
    let verdict := scorer content
    if c.config.scorerThreshold < verdict.score then
      some {
        method := .scorer
        score := verdict.score * c.config.scorerWeight
        labels := [verdict.label] }
    else none

def contributions (c : Classifier) (order : Entropy.Order) (content : List Char) :
    List Contribution :=
  [c.fromFingerprint content, fromPatterns content, c.fromEntropy order content,
    c.fromKeywords content, c.fromScorer content].filterMap id

def ascending (texts : List String) : List String :=
  Keyed.keys (Keyed.ofList (texts.map (fun t => (t, ()))))

def addCounts (total counts : List (String × Nat)) : List (String × Nat) :=
  counts.foldl (fun acc e => Keyed.update e.1 0 (· + e.2) acc) total

/-- Classifies a text, the counts of which are added up in that order. -/
def classify (c : Classifier) (order : Entropy.Order) (content : List Char) : Classification :=
  let found := c.contributions order content
  let scores := found.map Contribution.score
  let labels := ascending (found.flatMap Contribution.labels)
  { score := atMost 1.0 (scores.foldl greater 0.0)
    labels
    confidence := confidence scores labels.length
    entropy := Entropy.shannon order content
    methods := ascending (found.map (fun f => f.method.name))
    labelCounts := (found.map Contribution.counts).foldl addCounts [] }

def redact (marker content : String) : String :=
  String.ofList (Catalogue.redact marker.toList content.toList)

end Classifier

end LossPrevention
