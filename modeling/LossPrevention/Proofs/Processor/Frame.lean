import LossPrevention.Proofs.Event.Normal
import LossPrevention.Proofs.Processor.Redaction

/-!
What the processing of an event leaves alone. It writes the severity and some fields at the top,
and may take out the content; every path away from these leads to what it led to before, and the
event that leaves is as well formed as the one that came.
-/

namespace LossPrevention.Processor

open Classifier (Classification)
open Event (severityPath severityWord typePath)
open Json (Value)

variable {σ : Type}

/-- The fields at the top of an event that are written to. -/
def ownedKeys : List String := redactedKey :: annotationKeys

def ownedFields : List FieldPath := severityPath :: ownedKeys.map FieldPath.top

/-- All that processing may write to or take out. -/
def ownedPaths (p : Processor σ) : List FieldPath := p.contentField :: ownedFields

theorem first_not_mem_ownedKeys {path : FieldPath} (h : ∀ owned ∈ ownedFields, path.Apart owned) :
    path.first ∉ ownedKeys := by
  intro hmem
  have happart := h (.top path.first) (List.mem_cons_of_mem _ (List.mem_map_of_mem hmem))
  exact FieldPath.apart_top_iff.1 happart rfl

/-! ### Redaction -/

section Redact

variable (path : FieldPath) (marker : String) (event : Value)

theorem redact_cases :
    redact path marker event = event ∨
      ∃ text, path.resolve event = some (.text text) ∧
        redact path marker event =
          setField redactedKey (.text (Classifier.redact marker text)) (path.without event) := by
  cases hv : path.resolve event with
  | none => exact .inl (redact_of_none marker hv)
  | some v =>
      cases v with
      | text text => exact .inr ⟨text, rfl, redact_of_text marker hv⟩
      | _ =>
          left
          rw [redact, hv]
          rfl

variable {path marker event}

theorem resolve_redact_of_apart {q : FieldPath} (hq : q.Apart path) (hkey : q.first ≠ redactedKey) :
    q.resolve (redact path marker event) = q.resolve event := by
  rcases redact_cases path marker event with heq | ⟨text, htext, heq⟩
  · rw [heq]
  · rw [heq, FieldPath.resolve_congr (get?_setField_of_ne hkey _ _)]
    exact (FieldPath.lacks_without htext).resolveAt_of_apart hq.1 hq.2

/-- A field stays present, though it may change, if the redacted one lies below it. -/
theorem isSome_resolve_redact_of_prefix {q : FieldPath} (hbelow : ¬ path.segments <+: q.segments)
    (hq : q.segments <+: path.segments) (hkey : q.first ≠ redactedKey)
    (h : (q.resolve event).isSome) : (q.resolve (redact path marker event)).isSome := by
  rcases redact_cases path marker event with heq | ⟨text, htext, heq⟩
  · rwa [heq]
  · obtain ⟨back, hback⟩ := hq
    have hne : back ≠ [] := by
      rintro rfl
      rw [List.append_nil] at hback
      exact hbelow ⟨[], by rw [hback, List.append_nil]⟩
    have hlacks := FieldPath.lacks_without htext
    rw [← hback] at hlacks
    obtain ⟨-, fields, -, hfields, -⟩ := hlacks.exists_objects hne
    rw [heq, FieldPath.resolve_congr (get?_setField_of_ne hkey _ _), FieldPath.resolve, hfields]
    rfl

end Redact

/-! ### The completed event -/

section Completed

variable (p : Processor σ) (occasion : Occasion) (event : Value) (set : Engine.PolicySet)

theorem completed_cases :
    (p.completed occasion event set).event = p.decided occasion event set ∨
      p.config.redactContent = true ∧
        (∃ c, p.verdict occasion event = some c ∧ c.isSensitive = true) ∧
        (p.completed occasion event set).event =
          redact p.contentField p.config.redaction (p.decided occasion event set) := by
  have hevent : (p.completed occasion event set).event =
      p.annotated occasion.now (p.verdict occasion event) (p.found occasion event set)
        (p.enforced occasion event set).1 (p.seen occasion event) := rfl
  cases hc : p.verdict occasion event with
  | none =>
      left
      rw [hevent, hc]
      rfl
  | some c =>
      cases hon : p.config.redactContent && c.isSensitive with
      | false =>
          left
          rw [hevent, hc, annotated]
          simp only [hon]
          rfl
      | true =>
          obtain ⟨hredacts, hs⟩ := Bool.and_eq_true_iff.1 hon
          exact .inr ⟨hredacts, ⟨c, rfl, hs⟩, event_completed occasion set hredacts hc hs⟩

variable {p occasion event set} {q : FieldPath}

theorem resolve_decided_of_not_owned (hkeys : q.first ∉ ownedKeys) :
    q.resolve (p.decided occasion event set) = q.resolve (Event.normalize event) :=
  FieldPath.resolve_congr
    (get?_decided (fun h => hkeys (List.mem_cons_of_mem _ h)) occasion set)

theorem resolve_completed_of_apart (hq : q.Apart p.contentField) (hkeys : q.first ∉ ownedKeys) :
    q.resolve (p.completed occasion event set).event = q.resolve (Event.normalize event) := by
  have hkey : q.first ≠ redactedKey := fun h => hkeys (h ▸ List.mem_cons_self)
  rw [← @resolve_decided_of_not_owned _ p occasion _ set _ hkeys]
  rcases completed_cases p occasion event set with heq | ⟨-, -, heq⟩
  · rw [heq]
  · rw [heq, resolve_redact_of_apart hq hkey]

/-- Processing takes no field away that the content field does not lead to or beyond. -/
theorem isSome_resolve_completed (hbelow : ¬ p.contentField.segments <+: q.segments)
    (hkeys : q.first ∉ ownedKeys) (h : (q.resolve (Event.normalize event)).isSome) :
    (q.resolve (p.completed occasion event set).event).isSome := by
  have hkey : q.first ≠ redactedKey := fun h => hkeys (h ▸ List.mem_cons_self)
  rw [← @resolve_decided_of_not_owned _ p occasion _ set _ hkeys] at h
  by_cases hq : q.segments <+: p.contentField.segments
  · rcases completed_cases p occasion event set with heq | ⟨-, -, heq⟩
    · rwa [heq]
    · rw [heq]
      exact isSome_resolve_redact_of_prefix hbelow hq hkey h
  · rw [resolve_completed_of_apart ⟨hq, hbelow⟩ hkeys]
    rwa [resolve_decided_of_not_owned hkeys] at h

theorem severity_completed (hform : Event.WellFormed event)
    (hbelow : ¬ p.contentField.segments <+: severityPath.segments) :
    severityPath.resolve (p.completed occasion event set).event =
      some (.text (severityWord (severityPath.resolve event))) := by
  have hkeys : severityPath.first ∉ ownedKeys := by decide
  by_cases hq : severityPath.segments <+: p.contentField.segments
  · -- no path leads into the text of the severity, so nothing below it is taken out
    have hdecided : severityPath.resolve (p.decided occasion event set) =
        some (.text (severityWord (severityPath.resolve event))) := by
      rw [resolve_decided_of_not_owned hkeys, Event.severity_normalize hform]
    obtain ⟨back, hback⟩ := hq
    have hnone : p.contentField.resolve (p.decided occasion event set) = none ∨
        back = [] := by
      cases back with
      | nil => exact .inr rfl
      | cons next back =>
          left
          rw [FieldPath.resolve, ← hback, FieldPath.resolveAt_append, ← FieldPath.resolve,
            hdecided]
          rfl
    rcases hnone with hnone | rfl
    · rcases completed_cases p occasion event set with heq | ⟨-, -, heq⟩
      · rw [heq, hdecided]
      · rw [heq, redact_of_none _ hnone, hdecided]
    · rw [List.append_nil] at hback
      exact absurd ⟨[], by rw [List.append_nil, hback]⟩ hbelow
  · rw [resolve_completed_of_apart ⟨hq, hbelow⟩ hkeys, Event.severity_normalize hform]

theorem wellFormed_completed (hform : Event.WellFormed event)
    (htype : ¬ p.contentField.segments <+: typePath.segments)
    (hseverity : ¬ p.contentField.segments <+: severityPath.segments) :
    Event.WellFormed (p.completed occasion event set).event := by
  refine Event.wellFormed_iff_resolve.2 ⟨isSome_resolve_completed htype (by decide) ?_, ?_⟩
  · rw [Event.type_normalize hform]
    exact (Event.wellFormed_iff_resolve.1 hform).1
  · rw [severity_completed hform hseverity]
    rfl

theorem content_completed (hform : Event.WellFormed event)
    (hfields : ∀ owned ∈ ownedFields, p.contentField.Apart owned) :
    p.contentField.resolve (p.completed occasion event set).event =
        p.contentField.resolve event ∨
      p.contentField.resolve (p.completed occasion event set).event = none ∧
        p.config.redactContent = true ∧
          ∃ c, p.verdict occasion event = some c ∧ c.isSensitive = true := by
  have hkeys := first_not_mem_ownedKeys hfields
  have hdecided : p.contentField.resolve (p.decided occasion event set) =
      p.contentField.resolve event := by
    rw [resolve_decided_of_not_owned hkeys]
    refine Event.resolve_normalize (hfields _ List.mem_cons_self) ?_ ?_ hform <;>
      exact fun h => hkeys (h ▸ by decide)
  rcases completed_cases p occasion event set with heq | ⟨hon, hs, heq⟩
  · exact .inl (by rw [heq, hdecided])
  rcases redact_cases p.contentField p.config.redaction (p.decided occasion event set) with
    hsame | ⟨text, htext, -⟩
  · exact .inl (by rw [heq, hsame, hdecided])
  · refine .inr ⟨?_, hon, hs⟩
    rw [heq]
    refine resolve_redact _ htext (fun hpath => hkeys ?_)
    rw [(List.cons_eq_cons.1 hpath).1]
    exact List.mem_cons_self

end Completed

/-- Away from what it owns, the content field included, processing leaves an event as it is. The
severity becomes a known name and the event stays well formed unless the content field takes out
what makes it so. The content itself is at most taken out, and only where it is sensitive and to be
redacted. -/
theorem process_frame {p p' : Processor σ} {occasion : Occasion} {event : Value}
    {processed : Processed} (h : p.process occasion event = (.ok processed, p')) :
    (∀ path : FieldPath, (∀ owned ∈ p.ownedPaths, path.Apart owned) →
      path.resolve processed.event = path.resolve event) ∧
    (¬ p.contentField.segments <+: typePath.segments →
      ¬ p.contentField.segments <+: severityPath.segments →
      severityPath.resolve processed.event =
          some (.text (severityWord (severityPath.resolve event))) ∧
        Event.validate processed.event = .ok ()) ∧
    ((∀ owned ∈ ownedFields, p.contentField.Apart owned) →
      p.contentField.resolve processed.event = p.contentField.resolve event ∨
        p.contentField.resolve processed.event = none ∧ p.config.redactContent = true ∧
          ∃ c, processed.classification = some c ∧ c.isSensitive = true) := by
  rcases process_cases p occasion event with ⟨fault, -, hp⟩ | ⟨-, -, hp⟩ | ⟨hvalid, set, -, hp⟩
  · cases h.symm.trans hp
  · cases h.symm.trans hp
  · cases h.symm.trans hp
    have hform := Event.validate_eq_ok_iff.1 hvalid
    refine ⟨?_, ?_, content_completed hform⟩
    · intro path hpath
      obtain ⟨hcontent, hfields⟩ := List.forall_mem_cons.1 hpath
      have hkeys := first_not_mem_ownedKeys hfields
      rw [resolve_completed_of_apart hcontent hkeys]
      refine Event.resolve_normalize (hfields _ List.mem_cons_self) ?_ ?_ hform <;>
        exact fun h => hkeys (h ▸ by decide)
    · intro htype hseverity
      exact ⟨severity_completed hform hseverity,
        Event.validate_eq_ok_iff.2 (wellFormed_completed hform htype hseverity)⟩

/-- Content inside the part that every event has, next to something else. -/
theorem process_frame_note :
    let p := { redacting with contentField := ⟨"event", ["note", "text"]⟩ }
    let event : Value := .object [("event", .object [
      ("note", .object [("by", .text "someone"), ("text", .text "123-45-6789")]),
      ("severity", .text "HIGH"), ("type", .text "chat")])]
    ∃ processed p', p.process someTime event = (.ok processed, p') ∧
      FieldPath.resolve ⟨"event", ["note", "by"]⟩ processed.event = some (.text "someone") ∧
      severityPath.resolve processed.event = some (.text "high") ∧
      Event.validate processed.event = .ok () ∧
      (p.contentField.resolve processed.event = some (.text "123-45-6789") ∨
        p.contentField.resolve processed.event = none) := by
  intro p event
  have hp : p.process someTime event =
      (.ok (p.completed someTime event ⟨[], 1⟩), p.after someTime event ⟨[], 1⟩) :=
    process_of_loaded rfl rfl
  obtain ⟨hframe, hform, hcontent⟩ := process_frame hp
  obtain ⟨hseverity, hvalid⟩ := hform (by decide) (by decide)
  refine ⟨_, _, hp, ?_, hseverity, hvalid, ?_⟩
  · exact hframe ⟨"event", ["note", "by"]⟩ (by decide)
  · exact (hcontent (by decide)).imp_right And.left

end LossPrevention.Processor
