import LossPrevention.Proofs.Binary64.Sign
import LossPrevention.Proofs.Classifier.Sources

/-!
The bounds of a classification's numbers. Main statement: the score is between 0 and 1 and the
confidence at most 1, whatever the settings are, and the confidence is below 0 only where a setting
that is below 0 puts such a score among the contributed ones.
-/

namespace LossPrevention.Classifier

open Binary64

/-! ### Cutting off at one -/

section Limit

variable {x : Float}

theorem atMost_one_le (x : Float) : atMost 1.0 x ≤ 1.0 := by
  unfold atMost
  split
  · exact Binary64.le_of_lt ‹_›
  · exact Binary64.le_refl (by decide)

theorem zero_le_atMost_one_iff : 0.0 ≤ atMost 1.0 x ↔ ¬ x < 0.0 := by
  unfold atMost
  split
  · rename_i hx
    exact ⟨Binary64.not_lt_of_le, Binary64.le_of_not_lt (lt_iff.1 hx).1 (by decide)⟩
  · rename_i hx
    exact iff_of_true (by decide) fun hneg =>
      hx (Binary64.lt_of_le_of_lt (Binary64.le_of_lt hneg) (by decide))

end Limit

/-! ### Confidence -/

section Confidence

variable {scores : List Float} {labels : Nat}

/-- The confidence before it is cut off. -/
def agreed (scores : List Float) (labels : Nat) : Float :=
  scores.foldl (· + ·) (-0.0) / scores.length.toFloat *
    (0.7 + 0.15 * (min scores.length 3).toFloat / 3.0) * (1.0 / (1.0 + 0.1 * labels.toFloat))

theorem confidence_of_ne_nil (h : scores ≠ []) (labels : Nat) :
    confidence scores labels = atMost 1.0 (agreed scores labels) :=
  if_neg (by simpa using h)

theorem unsigned_spread (labels : Nat) :
    Unsigned (1.0 + 0.1 * labels.toFloat : Float).toModel.unpack :=
  unsigned_float_add (unsigned_of_signBit (by decide))
    (unsigned_float_mul (unsigned_of_signBit (by decide)) (unsigned_toFloat labels))

theorem not_lt_zero_sum (h : ∀ s ∈ scores, ¬ s < 0.0) {x : Float} (hx : ¬ x < 0.0) :
    ¬ scores.foldl (· + ·) x < 0.0 := by
  induction scores generalizing x with
  | nil => exact hx
  | cons s scores ih =>
      obtain ⟨hs, hrest⟩ := List.forall_mem_cons.1 h
      exact ih hrest (not_lt_zero_add hx hs)

/-- Nothing below zero comes of scores that are not. -/
theorem not_lt_zero_agreed (h : ∀ s ∈ scores, ¬ s < 0.0) (labels : Nat) :
    ¬ agreed scores labels < 0.0 := by
  have hmean : ¬ scores.foldl (· + ·) (-0.0) / scores.length.toFloat < 0.0 :=
    not_lt_zero_div (not_lt_zero_sum h (by decide)) (unsigned_toFloat _)
  have hagreement : ¬ 0.7 + 0.15 * (min scores.length 3).toFloat / 3.0 < 0.0 :=
    not_lt_zero_add (by decide) (not_lt_zero_div
      (not_lt_zero_mul (by decide) (not_lt_zero_of_unsigned (unsigned_toFloat _)))
      (unsigned_of_signBit (by decide)))
  have hconsistency : ¬ 1.0 / (1.0 + 0.1 * labels.toFloat) < 0.0 :=
    not_lt_zero_div (by decide) (unsigned_spread labels)
  exact not_lt_zero_mul (not_lt_zero_mul hmean hagreement) hconsistency

theorem confidence_nil (labels : Nat) : confidence [] labels = 0.0 := rfl

theorem confidence_le_one (scores : List Float) (labels : Nat) :
    confidence scores labels ≤ 1.0 := by
  by_cases h : scores = []
  · rw [h, confidence_nil]
    decide
  · rw [confidence_of_ne_nil h]
    exact atMost_one_le _

theorem zero_le_confidence_iff : 0.0 ≤ confidence scores labels ↔ ¬ agreed scores labels < 0.0 := by
  by_cases h : scores = []
  · rw [h, confidence_nil]
    exact iff_of_true (by decide) (not_lt_zero_agreed (List.forall_mem_nil _) labels)
  · rw [confidence_of_ne_nil h]
    exact zero_le_atMost_one_iff

end Confidence

/-! ### Contributed scores -/

section Bounds

variable {c : Classifier} {order : Entropy.Order} {content : List Char} {f : Contribution}

theorem not_lt_zero_densityScore (n : Nat) : ¬ densityScore n < 0.0 := by
  rw [densityScore, atMost]
  split
  · exact not_lt_zero_div (not_lt_zero_mul (by decide)
      (not_lt_zero_of_unsigned (unsigned_toFloat n))) (unsigned_of_signBit (by decide))
  · decide

theorem Contributes.not_lt_zero (hf : Contributes c order content f)
    (hspread : c.config.entropyThreshold < Entropy.shannon order content →
      ¬ c.config.entropyScore < 0.0)
    (hverdict : ∀ scorer, c.scorer = some scorer →
      c.config.scorerThreshold < (scorer content).score →
        ¬ (scorer content).score * c.config.scorerWeight < 0.0) :
    ¬ f.score < 0.0 := by
  cases hf with
  | known => exact (by decide : ¬ (1.0 : Float) < 0.0)
  | patterns | keywords => exact not_lt_zero_densityScore _
  | spread h => exact hspread h
  | verdict hscorer h => exact hverdict _ hscorer h

theorem score_between (c : Classifier) (order : Entropy.Order) (content : List Char) :
    0.0 ≤ (c.classify order content).score ∧ (c.classify order content).score ≤ 1.0 :=
  ⟨zero_le_atMost_one_iff.2 (Binary64.not_lt_of_le (le_foldl_greater (by decide) _)),
    atMost_one_le _⟩

/-- The score is within its bounds, and the confidence is as far as settings below zero have no
part in it. -/
structure Bounded (c : Classifier) (order : Entropy.Order) (content : List Char)
    (r : Classification) : Prop where
  score : 0.0 ≤ r.score ∧ r.score ≤ 1.0
  confidence_le : r.confidence ≤ 1.0
  confidence_iff : 0.0 ≤ r.confidence ↔
    ¬ agreed ((c.contributions order content).map Contribution.score) r.labels.length < 0.0
  confidence_of :
    (c.config.entropyThreshold < Entropy.shannon order content → ¬ c.config.entropyScore < 0.0) →
      (∀ scorer, c.scorer = some scorer → c.config.scorerThreshold < (scorer content).score →
        ¬ c.config.scorerWeight < 0.0) →
      0.0 ≤ r.confidence

theorem classify_bounded (c : Classifier) (order : Entropy.Order) (content : List Char)
    (hscorer : ∀ scorer, c.scorer = some scorer →
      0.0 ≤ (scorer content).score ∧ (scorer content).score ≤ 1.0) :
    Bounded c order content (c.classify order content) where
  score := score_between c order content
  confidence_le := confidence_le_one _ _
  confidence_iff := zero_le_confidence_iff
  confidence_of := fun hspread hweight => by
    refine zero_le_confidence_iff.2 (not_lt_zero_agreed (fun s hs => ?_) _)
    obtain ⟨f, hf, rfl⟩ := List.mem_map.1 hs
    exact (mem_contributions.1 hf).not_lt_zero hspread fun scorer h hfired =>
      not_lt_zero_mul (Binary64.not_lt_of_le (hscorer scorer h).1) (hweight scorer h hfired)

/-- A classifier with a scorer that is sure of everything. -/
def certain (weight : Float) : Classifier where
  config := { scorerWeight := weight }
  scorer := some fun _ => ⟨1.0, "X"⟩

theorem classify_bounded_certain :
    (∀ scorer, (certain 0.8).scorer = some scorer →
      0.0 ≤ (scorer []).score ∧ (scorer []).score ≤ 1.0) ∧
      Bounded (certain 0.8) .asWritten [] ((certain 0.8).classify .asWritten []) := by
  have hscorer : ∀ scorer, (certain 0.8).scorer = some scorer →
      0.0 ≤ (scorer []).score ∧ (scorer []).score ≤ 1.0 := fun scorer h => by
    cases h
    decide
  exact ⟨hscorer, classify_bounded _ _ _ hscorer⟩

/-- With a weight below zero the confidence is below zero, too. -/
theorem confidence_below_zero :
    (∀ scorer, (certain (-1.0)).scorer = some scorer → ∀ content,
      0.0 ≤ (scorer content).score ∧ (scorer content).score ≤ 1.0) ∧
      ((certain (-1.0)).classify .asWritten []).confidence < 0.0 := by
  refine ⟨fun scorer h content => ?_, by decide +kernel⟩
  cases h
  exact (by decide : (0.0 : Float) ≤ 1.0 ∧ (1.0 : Float) ≤ 1.0)

end Bounds

end LossPrevention.Classifier
