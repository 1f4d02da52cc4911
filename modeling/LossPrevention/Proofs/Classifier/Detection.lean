import LossPrevention.Classifier.Catalogue

/-!
What detection reports of a label. It is told by the findings of the label alone: a label that was
found is either counted or refused.
-/

namespace LossPrevention.Classifier

theorem Label.name_inj {a b : Label} (h : a.name = b.name) : a = b := by
  cases a <;> cases b <;> first | rfl | exact absurd h (by decide)

theorem Label.mem_all (label : Label) : label ∈ Label.all := by
  cases label <;> decide

namespace Catalogue

variable {label other : Label} {content : List Char} {d : Detection}

/-- Something was found, and the label is refused for it. -/
def Refused (label : Label) (content : List Char) : Prop :=
  findings label content ≠ [] ∧ refuses label (findings label content) = true

/-- The number of findings, if there are some and the label is not refused. -/
def reported? (label : Label) (content : List Char) : Option Nat :=
  if findings label content = [] ∨ refuses label (findings label content) = true then none
  else some (findings label content).length

theorem reported?_eq_some_iff {n : Nat} :
    reported? label content = some n ↔ 0 < n ∧ (findings label content).length = n ∧
      ¬ refuses label (findings label content) = true := by
  rw [reported?]
  constructor
  · intro h
    obtain ⟨hfound, hn⟩ := Option.ite_none_left_eq_some.1 h
    obtain ⟨hne, hrefuses⟩ := not_or.1 hfound
    cases hn
    exact ⟨List.length_pos_iff.2 hne, rfl, hrefuses⟩
  · rintro ⟨hpos, rfl, hrefuses⟩
    exact if_neg (not_or.2 ⟨List.length_pos_iff.1 hpos, hrefuses⟩)

/-! ### One label -/

theorem counts_addLabel : (addLabel content d label).counts =
    (reported? label content).elim d.counts (fun n => Keyed.insert label.name n d.counts) := by
  rw [addLabel, reported?]
  by_cases hnone : findings label content = []
  · simp [hnone]
  · by_cases hrefused : refuses label (findings label content) = true
    · simp [hnone, hrefused]
    · simp [hnone, hrefused]

theorem get?_addLabel_self :
    Keyed.get? label.name (addLabel content d label).counts =
      (reported? label content).or (Keyed.get? label.name d.counts) := by
  rw [counts_addLabel]
  cases reported? label content with
  | none => rfl
  | some n => exact Keyed.get?_insert_self _ _ _

theorem get?_addLabel_of_ne (h : other ≠ label) :
    Keyed.get? other.name (addLabel content d label).counts = Keyed.get? other.name d.counts := by
  have hname : other.name ≠ label.name := fun hname => h (Label.name_inj hname)
  rw [counts_addLabel]
  cases reported? label content with
  | none => rfl
  | some n => exact Keyed.get?_insert_of_ne hname _ _

theorem mem_rejected_addLabel :
    other ∈ (addLabel content d label).rejected ↔
      other ∈ d.rejected ∨ other = label ∧ Refused label content := by
  rw [addLabel, Refused]
  by_cases hnone : findings label content = []
  · simp [hnone]
  · by_cases hrefused : refuses label (findings label content) = true
    · simp [hnone, hrefused]
    · simp [hnone, hrefused]

/-! ### All labels -/

theorem get?_foldl_addLabel (labels : List Label) (d : Detection) :
    Keyed.get? label.name (labels.foldl (addLabel content) d).counts =
      if label ∈ labels then (reported? label content).or (Keyed.get? label.name d.counts)
      else Keyed.get? label.name d.counts := by
  induction labels generalizing d with
  | nil => rfl
  | cons first rest ih =>
      rw [List.foldl_cons, ih]
      by_cases hfirst : label = first
      · subst hfirst
        rw [get?_addLabel_self]
        cases reported? label content <;> simp
      · simp [get?_addLabel_of_ne hfirst, hfirst]

theorem mem_rejected_foldl_addLabel (labels : List Label) (d : Detection) :
    label ∈ (labels.foldl (addLabel content) d).rejected ↔
      label ∈ d.rejected ∨ label ∈ labels ∧ Refused label content := by
  induction labels generalizing d with
  | nil => simp
  | cons first rest ih =>
      rw [List.foldl_cons, ih, mem_rejected_addLabel, List.mem_cons, or_assoc]
      refine or_congr_right ?_
      by_cases hfirst : label = first
      · subst hfirst
        simp
      · simp [hfirst]

theorem get?_detect (label : Label) (content : List Char) :
    Keyed.get? label.name (detect content).counts = reported? label content := by
  rw [detect, get?_foldl_addLabel, if_pos (Label.mem_all label), Keyed.get?_nil, Option.or_none]

theorem mem_rejected_detect :
    label ∈ (detect content).rejected ↔ Refused label content := by
  rw [detect, mem_rejected_foldl_addLabel, and_iff_right (Label.mem_all label)]
  exact or_iff_right List.not_mem_nil

end Catalogue

end LossPrevention.Classifier
