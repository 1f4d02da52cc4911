import LossPrevention.Proofs.Classifier.Idempotence
import LossPrevention.Proofs.Classifier.Sources
import LossPrevention.Proofs.Processor.Frame

/-!
When the redacted copy of a sensitive text says something else than the text. Every source can make
a text sensitive, but only the patterns of the catalogue say what is replaced. A text in which none
of them finds anything stays in the copy word by word.
-/

namespace LossPrevention

open Json (Value)

namespace Classifier

variable {text : String} {marker : String}

theorem redact_ne_self_iff (h : ¬ marker.toList <:+: text.toList) :
    redact marker text ≠ text ↔ ¬ Catalogue.Clear text.toList := by
  have hlist : redact marker text = text ↔
      Catalogue.redact marker.toList text.toList = text.toList := by
    rw [redact, ← String.toList_inj, String.toList_ofList]
  rw [← Catalogue.redact_ne_self_iff h]
  exact not_congr hlist

/-- What the patterns contribute comes from a match of one of them. -/
theorem not_clear_of_regex {c : Classifier} {order : Entropy.Order} {content : List Char}
    (h : Method.regex.name ∈ (c.classify order content).methods) : ¬ Catalogue.Clear content := by
  obtain ⟨label, hyield⟩ := ((combines_classify c order content).methods .regex).1 h
  cases hyield with
  | pattern hlabel =>
      intro hclear
      rw [(Catalogue.clear_iff_detect.1 hclear).1] at hlabel
      cases hlabel

end Classifier

namespace Processor

open Classifier (Classification)
open Event (severityPath)

section Copy

variable {σ : Type} {p p' : Processor σ} {occasion : Occasion} {event : Value}
  {processed : Processed} {c : Classification} {text : String}

theorem redacted_of_processed (hon : p.config.redactContent = true)
    (hseverity : p.contentField.Apart severityPath) (hfield : p.contentField.first ∉ annotationKeys)
    (h : p.process occasion event = (.ok processed, p')) (hc : processed.classification = some c)
    (hs : c.isSensitive = true) (htext : p.contentField.resolve event = some (.text text)) :
    c = p.classifier.classify occasion.order text.toList ∧ p.Redacted text processed.event := by
  rcases process_cases p occasion event with ⟨fault, -, hp⟩ | ⟨-, -, hp⟩ | ⟨hvalid, set, -, hp⟩
  · cases h.symm.trans hp
  · cases h.symm.trans hp
  · cases h.symm.trans hp
    have hpresent : p.contentField.resolve (Event.normalize event) = some (.text text) := by
      rw [Event.resolve_normalize hseverity _ _ (Event.validate_eq_ok_iff.1 hvalid), htext]
      all_goals exact fun hkey => hfield (hkey ▸ by decide)
    refine ⟨?_, redacted_of_present occasion set hon hfield hc hs hpresent⟩
    obtain ⟨found, hfound, rfl⟩ := Option.map_eq_some_iff.1 hc
    rcases content?_eq_some hfound with hsame | ⟨hnone, -⟩
    · cases hpresent.symm.trans hsame
      rfl
    · cases hpresent.symm.trans hnone

/-- In the copy of a sensitive text something is replaced, unless no pattern of the catalogue finds
anything in the text. It does not matter which sources made the text sensitive. -/
theorem copy_differs_iff (hon : p.config.redactContent = true)
    (hseverity : p.contentField.Apart severityPath) (hfield : p.contentField.first ∉ annotationKeys)
    (h : p.process occasion event = (.ok processed, p')) (hc : processed.classification = some c)
    (hs : c.isSensitive = true) (htext : p.contentField.resolve event = some (.text text))
    (hmarker : ¬ p.config.redaction.toList <:+: text.toList) :
    ∃ copy, processed.event.get? redactedKey = some (.text copy) ∧
      (copy ≠ text ↔ ¬ Classifier.Catalogue.Clear text.toList) ∧
      (Classifier.Method.regex.name ∈ c.methods → copy ≠ text) ∧
      (p.contentField.segments ≠ [redactedKey] →
        p.contentField.resolve processed.event = none) := by
  obtain ⟨rfl, hredacted⟩ := redacted_of_processed hon hseverity hfield h hc hs htext
  have hiff := Classifier.redact_ne_self_iff hmarker
  exact ⟨_, hredacted.copy, hiff, fun hregex => hiff.2 (Classifier.not_clear_of_regex hregex),
    hredacted.absent⟩

end Copy

theorem copy_differs_iff_number :
    ∃ processed p' copy, redacting.process someTime (numberIn "content") = (.ok processed, p') ∧
      processed.event.get? redactedKey = some (.text copy) ∧ copy ≠ "123-45-6789" := by
  have hp : redacting.process someTime (numberIn "content") =
      (.ok (redacting.completed someTime (numberIn "content") ⟨[], 1⟩),
        redacting.after someTime (numberIn "content") ⟨[], 1⟩) := process_of_loaded rfl rfl
  obtain ⟨copy, hcopy, hiff, -⟩ := copy_differs_iff rfl (by decide) (by decide) hp rfl
    (isSensitive_number _ _) rfl (by decide)
  refine ⟨_, _, copy, hp, hcopy, hiff.2 fun hclear => ?_⟩
  cases detect_number.symm.trans (Classifier.Catalogue.clear_iff_detect.1 hclear).1

/-- A known document in which no pattern finds anything. -/
theorem document_left_in_copy :
    let p : Processor Unit := { redacting with classifier := Classifier.register {} "falcon" }
    let event : Value := .object [("content", .text "falcon"),
      ("event", .object [("severity", .text "low"), ("type", .text "chat")])]
    ∃ processed p' c, p.config.redactContent = true ∧
      (∀ owned ∈ ownedFields, p.contentField.Apart owned) ∧
      p.process someTime event = (.ok processed, p') ∧ processed.classification = some c ∧
      c.isSensitive = true ∧ p.contentField.resolve event = some (.text "falcon") ∧
      ¬ p.config.redaction.toList <:+: "falcon".toList ∧
      processed.event.get? redactedKey = some (.text "falcon") := by
  intro p event
  have hp : p.process someTime event =
      (.ok (p.completed someTime event ⟨[], 1⟩), p.after someTime event ⟨[], 1⟩) :=
    process_of_loaded rfl rfl
  have hknown : p.classifier.known.contains (Sha256.ofText (String.ofList "falcon".toList)) :=
    Classifier.Fingerprints.contains_add_self _ _
  have hsensitive : (p.classifier.classify .asWritten "falcon".toList).isSensitive = true :=
    Classifier.isSensitive_iff.2 ⟨.fingerprint, _, .known (by decide) hknown⟩
  have hredact : Classifier.redact "[REDACTED]" "falcon" = "falcon" := by decide +kernel
  obtain ⟨-, hredacted⟩ : _ ∧ p.Redacted "falcon" (p.completed someTime event ⟨[], 1⟩).event :=
    redacted_of_processed rfl (by decide) (by decide) hp rfl hsensitive rfl
  refine ⟨_, _, _, rfl, by decide, hp, rfl, hsensitive, rfl, by decide, ?_⟩
  rw [hredacted.copy]
  exact congrArg (some ∘ Value.text) hredact

end Processor

end LossPrevention
