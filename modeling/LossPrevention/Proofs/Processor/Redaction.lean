import LossPrevention.Proofs.Event.Removal
import LossPrevention.Proofs.Processor.Run

/-!
What becomes of sensitive content. The text that is classified is the one at the content field, or,
where there is none, the copy that an earlier redaction left. The policies and their decisions
write next to it. The content field is then emptied and a redacted copy kept, but a copy that has
taken its place is left as it is.
-/

namespace LossPrevention

open Json (Value)

namespace Processor

open Classifier (Classification Entropy.Order)
open Enforcement (Outcome)
open Policy (Match)
open Time (Instant)

variable {σ : Type}

/-! ### Writing fields -/

theorem get?_setField_self (key : String) (value event : Value) :
    (setField key value event).get? key = some value := by
  cases event with
  | object fields => exact Keyed.get?_insert_self key value fields
  | _ => simp [setField, Value.get?, Keyed.get?]

theorem get?_setField_of_ne {key other : String} (h : other ≠ key) (value event : Value) :
    (setField key value event).get? other = event.get? other := by
  cases event with
  | object fields => exact Keyed.get?_insert_of_ne h value fields
  | _ => simp [setField, Value.get?, Keyed.get?, Ne.symm h]

theorem get?_setFields {fields : List (String × Value)} {other : String}
    (h : ∀ f ∈ fields, other ≠ f.1) (event : Value) :
    (setFields fields event).get? other = event.get? other := by
  induction fields generalizing event with
  | nil => rfl
  | cons f rest ih =>
      obtain ⟨hf, hrest⟩ := List.forall_mem_cons.1 h
      rw [setFields, List.foldl_cons, ← setFields, ih hrest, get?_setField_of_ne hf]

/-- The fields that classification and decisions are written to. -/
def annotationKeys : List String :=
  ["classification", "blocked", "quarantined", "policy", "policies_matched", "policy_evaluated_at",
    "block_reason", "quarantine_path", "quarantine_reason", "alert", "notifications",
    "action_failures"]

theorem fst_of_mem_textField {key : String} {text : Option String} {f : String × Value}
    (h : f ∈ Json.textField key text) : f.1 = key := by
  cases text with
  | none => cases h
  | some s => exact congrArg Prod.fst (List.mem_singleton.1 h)

theorem fst_of_mem_listField {key : String} {items : List Value} {f : String × Value}
    (h : f ∈ listField key items) : f.1 = key := by
  rw [listField] at h
  split at h
  · cases h
  · exact congrArg Prod.fst (List.mem_singleton.1 h)

theorem decisionFields_subset (now : Instant) (matched : List Match) (outcome : Outcome) :
    ∀ f ∈ decisionFields now matched outcome, f.1 ∈ annotationKeys := by
  intro f hf
  rcases List.mem_append.1 hf with hf | hf
  · simp only [List.mem_cons, List.not_mem_nil, or_false] at hf
    rcases hf with rfl | rfl <;> simp [annotationKeys]
  · cases matched with
    | nil => cases hf
    | cons primary rest =>
        simp only [List.mem_append, List.mem_cons, List.not_mem_nil, or_false, or_assoc] at hf
        rcases hf with rfl | rfl | rfl | hf | hf | hf | hf | hf | hf
        · simp [annotationKeys]
        · simp [annotationKeys]
        · simp [annotationKeys]
        · simp [annotationKeys, fst_of_mem_textField hf]
        · simp [annotationKeys, fst_of_mem_textField hf]
        · simp [annotationKeys, fst_of_mem_textField hf]
        · obtain ⟨alert, -, rfl⟩ := List.mem_map.1 hf
          simp [annotationKeys]
        · simp [annotationKeys, fst_of_mem_listField hf]
        · simp [annotationKeys, fst_of_mem_listField hf]

def decided (p : Processor σ) (occasion : Occasion) (event : Value) (set : Engine.PolicySet) :
    Value :=
  setFields (decisionFields occasion.now (p.found occasion event set)
    (p.enforced occasion event set).1) (p.seen occasion event)

/-- Before an event is redacted nothing is written but the fields for it. -/
theorem get?_decided {p : Processor σ} {event : Value} {key : String} (h : key ∉ annotationKeys)
    (occasion : Occasion) (set : Engine.PolicySet) :
    (p.decided occasion event set).get? key = (Event.normalize event).get? key := by
  have hfields : ∀ f ∈ decisionFields occasion.now (p.found occasion event set)
      (p.enforced occasion event set).1, key ≠ f.1 := by
    rintro f hf rfl
    exact h (decisionFields_subset _ _ _ f hf)
  have hclassified : key ≠ "classification" := by
    rintro rfl
    exact h (by simp [annotationKeys])
  rw [decided, get?_setFields hfields, seen]
  cases p.verdict occasion event with
  | none => rfl
  | some c => exact get?_setField_of_ne hclassified _ _

/-! ### The text and its copy -/

theorem content?_eq_some {path : FieldPath} {event : Value} {text : String}
    (h : content? path event = some text) :
    path.resolve event = some (.text text) ∨
      path.resolve event = none ∧ event.get? redactedKey = some (.text text) := by
  obtain ⟨hbind, -⟩ := Option.filter_eq_some_iff.1 h
  obtain ⟨v, hv, htext⟩ := Option.bind_eq_some_iff.1 hbind
  have hvalue : v = .text text := by
    cases v <;> cases htext
    rfl
  subst hvalue
  cases hpath : path.resolve event with
  | some w =>
      rw [hpath] at hv
      exact .inl hv
  | none =>
      rw [hpath] at hv
      exact .inr ⟨rfl, hv⟩

section Redact

variable {path : FieldPath} {event : Value} {text : String} (marker : String)

theorem redact_of_none (h : path.resolve event = none) : redact path marker event = event := by
  rw [redact, h]
  rfl

theorem redact_of_text (h : path.resolve event = some (.text text)) :
    redact path marker event =
      setField redactedKey (.text (Classifier.redact marker text)) (path.without event) := by
  rw [redact, h]
  rfl

theorem get?_redact (h : path.resolve event = some (.text text)) :
    (redact path marker event).get? redactedKey =
      some (.text (Classifier.redact marker text)) := by
  rw [redact_of_text marker h, get?_setField_self]

theorem resolve_redact (h : path.resolve event = some (.text text))
    (hpath : path.segments ≠ [redactedKey]) : path.resolve (redact path marker event) = none := by
  by_cases hfirst : path.first = redactedKey
  · -- the copy is a text, and no path leads into a text
    cases hothers : path.others with
    | nil => exact absurd (by rw [FieldPath.segments, hfirst, hothers]) hpath
    | cons next others =>
        have hget := get?_redact marker h
        rw [FieldPath.resolve, FieldPath.segments, hothers, hfirst, FieldPath.resolveAt, hget]
        rfl
  · rw [redact_of_text marker h, FieldPath.resolve_congr (get?_setField_of_ne hfirst _ _)]
    exact FieldPath.resolve_without h

end Redact

/-! ### Sensitive events -/

/-- What is promised for sensitive content: its redacted copy, and nothing at the field, unless the
copy is there. -/
structure Redacted (p : Processor σ) (text : String) (out : Value) : Prop where
  absent : p.contentField.segments ≠ [redactedKey] → p.contentField.resolve out = none
  copy : out.get? redactedKey = some (.text (Classifier.redact p.config.redaction text))

section Sensitive

variable {p : Processor σ} (occasion : Occasion) {event : Value} (set : Engine.PolicySet)
  {c : Classification} {text : String}

theorem event_completed (hon : p.config.redactContent = true)
    (hc : p.verdict occasion event = some c) (hs : c.isSensitive = true) :
    (p.completed occasion event set).event =
      redact p.contentField p.config.redaction (p.decided occasion event set) := by
  have hevent : (p.completed occasion event set).event =
      p.annotated occasion.now (p.verdict occasion event) (p.found occasion event set)
        (p.enforced occasion event set).1 (p.seen occasion event) := rfl
  rw [hevent, hc, annotated]
  simp only [hon, hs, Bool.and_self, if_true]
  rfl

theorem resolve_decided (hfield : p.contentField.first ∉ annotationKeys) :
    p.contentField.resolve (p.decided occasion event set) =
      p.contentField.resolve (Event.normalize event) :=
  FieldPath.resolve_congr (get?_decided hfield occasion set)

theorem redacted_of_present (hon : p.config.redactContent = true)
    (hfield : p.contentField.first ∉ annotationKeys) (hc : p.verdict occasion event = some c)
    (hs : c.isSensitive = true)
    (hpresent : p.contentField.resolve (Event.normalize event) = some (.text text)) :
    p.Redacted text (p.completed occasion event set).event := by
  rw [← resolve_decided occasion set hfield] at hpresent
  rw [event_completed occasion set hon hc hs]
  exact ⟨resolve_redact _ hpresent, get?_redact _ hpresent⟩

/-- Where there is nothing at the field, it stays so, and the copy stays as it is. -/
theorem unchanged_of_absent (hon : p.config.redactContent = true)
    (hfield : p.contentField.first ∉ annotationKeys) (hc : p.verdict occasion event = some c)
    (hs : c.isSensitive = true)
    (habsent : p.contentField.resolve (Event.normalize event) = none) :
    p.contentField.resolve (p.completed occasion event set).event = none ∧
      (p.completed occasion event set).event.get? redactedKey =
        (Event.normalize event).get? redactedKey := by
  rw [← resolve_decided occasion set hfield] at habsent
  rw [event_completed occasion set hon hc hs, redact_of_none _ habsent]
  exact ⟨habsent, get?_decided (by simp [annotationKeys, redactedKey]) occasion set⟩

end Sensitive

/-- Sensitive content is redacted as promised if it comes from the content field. A copy that has
taken its place stays as it is, so then the promise is kept only if there is nothing in it that
could be taken out. -/
theorem process_redacts_iff {p p' : Processor σ} {occasion : Occasion} {event : Value}
    {processed : Processed} {c : Classification} (hon : p.config.redactContent = true)
    (hfield : p.contentField.first ∉ annotationKeys)
    (h : p.process occasion event = (.ok processed, p')) (hc : processed.classification = some c)
    (hs : c.isSensitive = true) :
    ∃ text, content? p.contentField (Event.normalize event) = some text ∧
      c = p.classifier.classify occasion.order text.toList ∧
      (p.Redacted text processed.event ↔
        p.contentField.resolve (Event.normalize event) ≠ none ∨
          Classifier.redact p.config.redaction text = text) ∧
      (p.contentField.resolve (Event.normalize event) = none →
        p.contentField.resolve processed.event = none ∧
          processed.event.get? redactedKey = some (.text text)) := by
  rcases process_cases p occasion event with ⟨fault, -, hp⟩ | ⟨-, -, hp⟩ | ⟨-, set, -, hp⟩
  · cases h.symm.trans hp
  · cases h.symm.trans hp
  · cases h.symm.trans hp
    obtain ⟨text, htext, hclass⟩ := Option.map_eq_some_iff.1 hc
    refine ⟨text, htext, hclass.symm, ?_, ?_⟩
    · rcases content?_eq_some htext with hpresent | ⟨habsent, hcopy⟩
      · refine iff_of_true (redacted_of_present occasion set hon hfield hc hs hpresent) (.inl ?_)
        rw [hpresent]
        exact Option.some_ne_none _
      · obtain ⟨hnone, hkept⟩ := unchanged_of_absent occasion set hon hfield hc hs habsent
        rw [hcopy] at hkept
        constructor
        · intro hr
          have heq := hkept.symm.trans hr.copy
          injection heq with heq
          injection heq with heq
          exact .inr heq.symm
        · rintro (hpresent | heq)
          · exact absurd habsent hpresent
          · exact ⟨fun _ => hnone, by rw [hkept, heq]⟩
    · intro habsent
      rcases content?_eq_some htext with hpresent | ⟨-, hcopy⟩
      · cases habsent.symm.trans hpresent
      · exact hcopy ▸ unchanged_of_absent occasion set hon hfield hc hs habsent

/-! ### A number in the copy -/

/-- A processor that redacts, with no policies in the set that is in force. -/
def redacting : Processor Unit where
  classifier := {}
  engine := { tracker := .ofConfig {}, defaultWindow := 0, active := some ⟨[], 1⟩ }
  executor := Enforcement.Executor.accepting
  memory := ()
  config := { redactContent := true }
  contentField := ⟨"content", []⟩
  trail := .empty 1

def numberIn (key : String) : Value :=
  .object [(key, .text "123-45-6789"),
    ("event", .object [("severity", .text "low"), ("type", .text "chat")])]

def someTime : Occasion := ⟨⟨0, 0⟩, .asWritten, "record", ⟨0, 0⟩, 0⟩

theorem isSensitive_classify (classifier : Classifier) (order : Entropy.Order)
    {content : List Char} {found : Classifier.Contribution} {label : String}
    (h : Classifier.fromPatterns content = some found) (hlabel : label ∈ found.labels) :
    (classifier.classify order content).isSensitive = true := by
  have hmem :
      label ∈ (classifier.contributions order content).flatMap Classifier.Contribution.labels := by
    refine List.mem_flatMap.2 ⟨found, List.mem_filterMap.2 ⟨some found, ?_, rfl⟩, hlabel⟩
    rw [h]
    simp
  have hlabels : (classifier.classify order content).labels ≠ [] := by
    intro hnil
    have hnone := Keyed.ofList_eq_nil_iff.1 (List.map_eq_nil_iff.1 hnil)
    rw [List.map_eq_nil_iff.1 hnone] at hmem
    cases hmem
  simpa [Classification.isSensitive] using hlabels

theorem detect_number :
    (Classifier.Catalogue.detect "123-45-6789".toList).counts = [("SSN", 1)] := by
  decide +kernel

theorem isSensitive_number (classifier : Classifier) (order : Entropy.Order) :
    (classifier.classify order "123-45-6789".toList).isSensitive = true := by
  have hfound : Classifier.fromPatterns "123-45-6789".toList =
      some ⟨.regex, Classifier.densityScore 1, ["SSN"], [("SSN", 1)]⟩ := by
    rw [Classifier.fromPatterns, detect_number]
    rfl
  exact isSensitive_classify classifier order hfound List.mem_cons_self

theorem process_redacts_iff_number :
    ∃ processed p', redacting.process someTime (numberIn "content") = (.ok processed, p') ∧
      redacting.Redacted "123-45-6789" processed.event := by
  have hp : redacting.process someTime (numberIn "content") =
      (.ok (redacting.completed someTime (numberIn "content") ⟨[], 1⟩),
        redacting.after someTime (numberIn "content") ⟨[], 1⟩) := process_of_loaded rfl rfl
  obtain ⟨text, htext, -, hiff, -⟩ :=
    process_redacts_iff rfl (by decide) hp rfl (isSensitive_number _ _)
  cases htext
  exact ⟨_, _, hp, hiff.2 (.inl nofun)⟩

/-- A number in a copy is found there and left there. -/
theorem number_left_in_copy :
    ∃ processed p' c, redacting.config.redactContent = true ∧
      redacting.contentField.first ∉ annotationKeys ∧
      redacting.process someTime (numberIn redactedKey) = (.ok processed, p') ∧
      processed.classification = some c ∧ c.isSensitive = true ∧
      content? redacting.contentField (Event.normalize (numberIn redactedKey)) =
        some "123-45-6789" ∧
      ¬ redacting.Redacted "123-45-6789" processed.event := by
  have hp : redacting.process someTime (numberIn redactedKey) =
      (.ok (redacting.completed someTime (numberIn redactedKey) ⟨[], 1⟩),
        redacting.after someTime (numberIn redactedKey) ⟨[], 1⟩) := process_of_loaded rfl rfl
  refine ⟨_, _, _, rfl, by decide, hp, rfl, isSensitive_number _ _, rfl, ?_⟩
  intro hr
  have habsent : redacting.contentField.resolve (Event.normalize (numberIn redactedKey)) = none :=
    rfl
  have hverdict : redacting.verdict someTime (numberIn redactedKey) =
      some (redacting.classifier.classify .asWritten "123-45-6789".toList) := rfl
  have hkept := (unchanged_of_absent someTime ⟨[], 1⟩ rfl (by decide) hverdict
    (isSensitive_number _ _) habsent).2
  have hcopy : (Event.normalize (numberIn redactedKey)).get? redactedKey =
      some (.text "123-45-6789") := rfl
  have hredact : Classifier.redact "[REDACTED]" "123-45-6789" = "[REDACTED]" := by decide +kernel
  have hmarker : redacting.config.redaction = "[REDACTED]" := rfl
  have heq := (hcopy.symm.trans hkept.symm).trans hr.copy
  rw [hmarker, hredact] at heq
  injection heq with heq
  injection heq with heq
  exact absurd heq (by decide)

end Processor

end LossPrevention
