import LossPrevention.Policy.Action
import LossPrevention.Proofs.Event.Paths
import LossPrevention.Proofs.Processor.Refusal

/-!
Events in their normal form. Only the severity and the two decisions are written; every path away
from them leads to what it led to before.
-/

namespace LossPrevention.Event

open Json (Value)
open FieldPath (resolveAt)

def typePath : FieldPath := ⟨"event", ["type"]⟩

def severityPath : FieldPath := ⟨"event", ["severity"]⟩

/-- What is written for the severity that an event has: a known name in small letters, and medium
for everything else. -/
def severityWord : Option Value → String
  | some (.text s) =>
      if Severity.names.contains (Text.lowerAscii s) then Text.lowerAscii s else "medium"
  | _ => "medium"

theorem name_severityOf (inner : Json.Fields) :
    (severityOf inner).name = severityWord (Keyed.get? "severity" inner) := by
  have hword : ∀ word : String, ((Severity.ofName? word).getD .medium).name =
      if Severity.names.contains word then word else "medium" := by
    intro word
    rw [Severity.ofName?.eq_def]
    split
    · rfl
    · rfl
    · rfl
    · rfl
    · rename_i hlow hmedium hhigh hcritical
      rw [if_neg]
      · rfl
      · simpa [Severity.names] using ⟨hlow, hmedium, hhigh, hcritical⟩
  rw [severityOf]
  cases hv : Keyed.get? "severity" inner with
  | none => rfl
  | some v =>
      cases v with
      | text s => exact hword (Text.lowerAscii s)
      | _ => rfl

theorem resolve_of_event {root inner : Json.Fields}
    (h : Keyed.get? "event" root = some (.object inner)) (key : String) :
    FieldPath.resolve ⟨"event", [key]⟩ (.object root) = Keyed.get? key inner := by
  have hget : (Value.object root).get? (⟨"event", [key]⟩ : FieldPath).first =
      some (.object inner) := h
  rw [FieldPath.resolve_of_get? hget, resolveAt, Value.get?]
  cases Keyed.get? key inner <;> rfl

theorem wellFormed_iff_resolve {event : Value} :
    WellFormed event ↔
      (typePath.resolve event).isSome ∧ (severityPath.resolve event).isSome := by
  constructor
  · rintro ⟨root, inner, rfl, hinner, htype, hseverity⟩
    rw [typePath, severityPath, resolve_of_event hinner, resolve_of_event hinner]
    exact ⟨htype, hseverity⟩
  · rintro ⟨htype, hseverity⟩
    obtain ⟨v, hv⟩ := Option.isSome_iff_exists.1 htype
    obtain ⟨u, hu, hv⟩ := Option.bind_eq_some_iff.1 hv
    obtain ⟨w, hw, -⟩ := Option.bind_eq_some_iff.1 hv
    cases event with
    | object root =>
        cases u with
        | object inner =>
            rw [typePath, resolve_of_event hu] at htype
            rw [severityPath, resolve_of_event hu] at hseverity
            exact ⟨root, inner, rfl, hu, htype, hseverity⟩
        | _ => cases hw
    | _ => cases hu

/-! ### The normal form -/

theorem get?_withDefault_of_ne {key other : String} (h : other ≠ key) (value : Value)
    (fields : Json.Fields) :
    Keyed.get? other (withDefault key value fields) = Keyed.get? other fields := by
  rw [withDefault]
  split
  · rfl
  · exact Keyed.get?_insert_of_ne h value fields

theorem normalize_of_event {root inner : Json.Fields}
    (h : Keyed.get? "event" root = some (.object inner)) :
    normalize (.object root) = .object (withDefault "quarantined" (.bool false)
      (withDefault "blocked" (.bool false) (Keyed.insert "event"
        (.object (Keyed.insert "severity" (.text (severityOf inner).name) inner)) root))) := by
  rw [normalize, h]

theorem get?_event_normalize {root inner : Json.Fields}
    (h : Keyed.get? "event" root = some (.object inner)) :
    (normalize (.object root)).get? "event" =
      some (.object (Keyed.insert "severity" (.text (severityOf inner).name) inner)) := by
  rw [normalize_of_event h, Value.get?, get?_withDefault_of_ne (by decide),
    get?_withDefault_of_ne (by decide), Keyed.get?_insert_self]

theorem get?_normalize_of_ne {key : String} (he : key ≠ "event") (hb : key ≠ "blocked")
    (hq : key ≠ "quarantined") (event : Value) :
    (normalize event).get? key = event.get? key := by
  cases event with
  | object root =>
      rw [normalize, Value.get?, get?_withDefault_of_ne hq, get?_withDefault_of_ne hb, Value.get?]
      split
      · exact Keyed.get?_insert_of_ne he _ root
      · rfl
  | _ => rfl

theorem resolve_normalize {path : FieldPath} (hs : path.Apart severityPath)
    (hb : path.first ≠ "blocked") (hq : path.first ≠ "quarantined") {event : Value}
    (hform : WellFormed event) : path.resolve (normalize event) = path.resolve event := by
  by_cases he : path.first = "event"
  · obtain ⟨root, inner, rfl, hinner, -, -⟩ := hform
    obtain ⟨first, others⟩ := path
    cases he
    cases others with
    | nil => exact absurd ⟨["severity"], rfl⟩ hs.1
    | cons t more =>
        have ht : t ≠ "severity" := by
          rintro rfl
          exact hs.2 ⟨more, rfl⟩
        have hnormal : (normalize (.object root)).get? (⟨"event", t :: more⟩ : FieldPath).first =
            _ := get?_event_normalize hinner
        have hgiven : (Value.object root).get? (⟨"event", t :: more⟩ : FieldPath).first =
            _ := hinner
        rw [FieldPath.resolve_of_get? hnormal, FieldPath.resolve_of_get? hgiven, resolveAt,
          resolveAt, Value.get?, Value.get?, Keyed.get?_insert_of_ne ht]
  · rw [FieldPath.resolve, FieldPath.resolve, FieldPath.segments, resolveAt, resolveAt,
      get?_normalize_of_ne he hb hq]

theorem severity_normalize {event : Value} (hform : WellFormed event) :
    severityPath.resolve (normalize event) =
      some (.text (severityWord (severityPath.resolve event))) := by
  obtain ⟨root, inner, rfl, hinner, -, -⟩ := hform
  have hnormal : (normalize (.object root)).get? severityPath.first = _ :=
    get?_event_normalize hinner
  have hseverity : severityPath.resolve (.object root) = Keyed.get? "severity" inner :=
    resolve_of_event hinner "severity"
  rw [FieldPath.resolve_of_get? hnormal, severityPath, resolveAt, Value.get?,
    Keyed.get?_insert_self, ← severityPath, hseverity, name_severityOf]
  rfl

theorem type_normalize {event : Value} (hform : WellFormed event) :
    typePath.resolve (normalize event) = typePath.resolve event :=
  resolve_normalize (by decide) (by decide) (by decide) hform

end LossPrevention.Event
