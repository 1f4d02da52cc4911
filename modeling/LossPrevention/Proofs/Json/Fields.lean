import LossPrevention.Json.Value

/-!
Objects of which some fields are left out. A field is listed with what there is to write in it, and
is written only if there is something.
-/

namespace LossPrevention.Json

variable {α : Type}

/-- A field as it is written, or left out. -/
def writtenField (e : String × Option Value) : Fields := (e.2.map fun v => (e.1, v)).toList

theorem textField_eq (key : String) (text : Option String) :
    textField key text = writtenField (key, text.map .text) := by
  cases text <;> rfl

theorem map_toList_eq (key : String) (encode : α → Value) (item : Option α) :
    (item.toList.map fun a => (key, encode a)) = writtenField (key, item.map encode) := by
  cases item <;> rfl

theorem mem_written {es : List (String × Option Value)} {e : String × Value}
    (h : e ∈ es.flatMap writtenField) : ∃ e' ∈ es, e'.1 = e.1 ∧ e'.2 = some e.2 := by
  obtain ⟨⟨key, value⟩, he', h⟩ := List.mem_flatMap.1 h
  cases value with
  | none => cases h
  | some v =>
      cases List.mem_singleton.1 h
      exact ⟨_, he', rfl, rfl⟩

theorem keys_written_sublist (es : List (String × Option Value)) :
    (Keyed.keys (es.flatMap writtenField)).Sublist (Keyed.keys es) := by
  induction es with
  | nil => exact .refl _
  | cons e rest ih =>
      obtain ⟨key, value⟩ := e
      cases value with
      | none => exact ih.cons _
      | some v => exact ih.cons_cons _

/-- Fields that are listed by their keys are written in the order of the list. -/
theorem ofFields_written {es : List (String × Option Value)}
    (h : (Keyed.keys es).Pairwise (· < ·)) :
    Value.ofFields (es.flatMap writtenField) = .object (es.flatMap writtenField) := by
  have hascending : Keyed.Ascending (es.flatMap writtenField) :=
    List.pairwise_map.1 (h.sublist (keys_written_sublist es))
  rw [Value.ofFields, Keyed.ofList_of_perm hascending (.refl _)]

theorem get?_written {es : List (String × Option Value)} (h : (Keyed.keys es).Nodup)
    {e : String × Option Value} (he : e ∈ es) :
    Keyed.get? e.1 (es.flatMap writtenField) = e.2 := by
  induction es with
  | nil => cases he
  | cons first rest ih =>
      obtain ⟨hnew, hrest⟩ := List.nodup_cons.1 h
      rw [List.flatMap_cons, Keyed.get?_append]
      rcases List.mem_cons.1 he with rfl | hlater
      · have hnone : Keyed.get? e.1 (rest.flatMap writtenField) = none :=
          Keyed.get?_eq_none_iff.2 (fun hmem => hnew ((keys_written_sublist rest).subset hmem))
        obtain ⟨key, value⟩ := e
        rw [hnone, Option.or_none]
        cases value <;> simp [writtenField, Keyed.get?]
      · have hne : first.1 ≠ e.1 := by
          intro heq
          exact hnew (heq ▸ List.mem_map_of_mem hlater)
        obtain ⟨key, value⟩ := first
        rw [ih hrest hlater]
        cases value <;> simp [writtenField, Keyed.get?, hne]

end LossPrevention.Json
