import LossPrevention.Proofs.Json.Unambiguous
import LossPrevention.Proofs.Tracker.Contents

/-!
How many different values of a field a window holds. Their texts are counted, and texts stand for
values: a text is never shared by two values, nor has a value two texts. Main statement: the number
that a check compares with its threshold is the number of values of which no two are the same.
-/

namespace LossPrevention

open Json (Value)

/-! ### Values on a path -/

theorem FieldPath.proper_resolveAt {path : List String} {v w : Value} (hv : v.Proper)
    (h : resolveAt path v = some w) : w.Proper := by
  induction path generalizing v with
  | nil => exact Option.some.inj h ▸ hv
  | cons key rest ih =>
    obtain ⟨u, hu, hw⟩ := Option.bind_eq_some_iff.1 h
    exact ih (hv.of_get? hu) hw

namespace Tracker

variable {field : FieldPath} {entries : List Entry}

theorem mem_presentValues_iff {v : Value} : v ∈ presentValues field entries ↔
    (∃ e ∈ entries, field.resolve e.event = some v) ∧ v ≠ .null := by
  rw [presentValues, List.mem_filter, List.mem_filterMap]
  refine and_congr_right fun _ => ?_
  cases v <;> simp [Value.isNull]

theorem mem_distinctValues_iff {v : Value} :
    v ∈ distinctValues field entries ↔ v ∈ presentValues field entries :=
  List.mem_eraseDups

section Proper

variable (h : ∀ e ∈ entries, e.event.Proper)

include h

theorem proper_of_mem_presentValues {v : Value} (hv : v ∈ presentValues field entries) :
    v.Proper := by
  obtain ⟨⟨e, he, hresolve⟩, -⟩ := mem_presentValues_iff.1 hv
  exact FieldPath.proper_resolveAt (h e he) hresolve

theorem count_eq_length_distinctValues (required : Nat) :
    count ⟨required, some field⟩ entries = (distinctValues field entries).length := by
  refine length_distinctTexts fun v hv w hw heq => ?_
  have hv := proper_of_mem_presentValues h (mem_distinctValues_iff.1 hv)
  have hw := proper_of_mem_presentValues h (mem_distinctValues_iff.1 hw)
  exact Value.compact_inj hv.fits hw.fits heq

theorem pairwise_distinctValues :
    (distinctValues field entries).Pairwise (fun v w => ¬ v.Same w) := by
  refine (nodup_eraseDups _).imp_of_mem fun {v w} hv hw hne hsame => hne ?_
  have hv := proper_of_mem_presentValues h (mem_distinctValues_iff.1 hv)
  have hw := proper_of_mem_presentValues h (mem_distinctValues_iff.1 hw)
  exact (hv.same_iff hw).1 hsame

end Proper

/-- What a check with a field counts: `kinds` lists every value of the field that is there, and no
two that are the same. Two values count as one only if they are the same; so a text counts as
nothing but itself. -/
theorem count_of_distinct_values (field : FieldPath) (entries : List Entry)
    (h : ∀ e ∈ entries, e.event.Proper) :
    ∃ kinds : List Value,
      (∀ v ∈ kinds, (∃ e ∈ entries, field.resolve e.event = some v) ∧ v ≠ .null) ∧
      (∀ e ∈ entries, ∀ v, field.resolve e.event = some v → v ≠ .null →
        ∃ w ∈ kinds, v.Same w) ∧
      kinds.Pairwise (fun v w => ¬ v.Same w) ∧
      (∀ required, count ⟨required, some field⟩ entries = kinds.length) ∧
      (∀ (t : Tracker) (c : Call), c.rule.threshold.distinct = some field →
        (t.answer c).2.window c.policy = entries →
        ((t.answer c).1 = true ↔ c.rule.threshold.count ≤ kinds.length)) ∧
      (∀ v ∈ presentValues field entries, ∀ w ∈ presentValues field entries,
        v.compact = w.compact ↔ v.Same w) ∧
      ∀ v ∈ presentValues field entries, ∀ s,
        v.compact = (Value.text s).compact ↔ v = .text s := by
  refine ⟨distinctValues field entries, ?_, ?_, pairwise_distinctValues h,
    count_eq_length_distinctValues h, ?_, ?_, ?_⟩
  · intro v hv
    exact mem_presentValues_iff.1 (mem_distinctValues_iff.1 hv)
  · intro e he v hv hnull
    have hmem : v ∈ presentValues field entries := mem_presentValues_iff.2 ⟨⟨e, he, hv⟩, hnull⟩
    exact ⟨v, mem_distinctValues_iff.2 hmem, Value.same_self v⟩
  · intro t c hfield hwindow
    have hthreshold : c.rule.threshold = ⟨c.rule.threshold.count, some field⟩ := by
      rw [← hfield]
    rw [answer_iff_reaches, hwindow, ← count_le_iff_reaches, hthreshold,
      count_eq_length_distinctValues h]
  · intro v hv w hw
    exact (proper_of_mem_presentValues h hv).compact_eq_iff (proper_of_mem_presentValues h hw)
  · intro v hv s
    have hs : (Value.text s).Proper := ⟨trivial, trivial⟩
    have hv := proper_of_mem_presentValues h hv
    rw [hv.compact_eq_iff hs, hv.same_iff hs]

/-- A text, the number it looks like, a list of that number and the text that looks like the list
are four values. An object is one in whatever order its fields are given; a null and an absent
field are none. -/
theorem count_of_distinct_lookalikes :
    let event (v : Value) : Entry := ⟨⟨0, 0⟩, .ofFields [("user", v)]⟩
    let one : Value := .ofInt 1
    let entries := [event (.text "1"), event one, event (.list [one]), event (.text "[1]"),
      event (.text "1"), event .null, ⟨⟨0, 0⟩, .ofFields []⟩,
      event (.ofFields [("b", one), ("a", .null)]), event (.ofFields [("a", .null), ("b", one)])]
    (∀ e ∈ entries, e.event.Proper) ∧
      ∃ kinds : List Value, kinds.Pairwise (fun v w => ¬ v.Same w) ∧ kinds.length = 5 := by
  intro event one entries
  have hproper : ∀ e ∈ entries, e.event.Proper := by
    have htext (s : String) : Document.Canonical 1 (.text s) := ⟨trivial, trivial, Nat.zero_le 1⟩
    have hnull (n : Nat) : Document.Canonical n .null := ⟨trivial, trivial, Nat.zero_le n⟩
    have hone (n : Nat) : Document.Canonical n one :=
      ⟨trivial, ⟨by decide, by decide⟩, Nat.zero_le n⟩
    have hevent {v : Value} (hv : Document.Canonical 1 v) : (event v).event.Proper :=
      Value.proper_of_canonical (Document.canonical_ofFields (List.forall_mem_singleton.2 hv))
    have hlist := Document.canonical_list (List.forall_mem_singleton.2 (hone 0))
    have hobject {fs : Json.Fields} (h : ∀ e ∈ fs, e.2 = .null ∨ e.2 = one) :
        Document.Canonical 1 (.ofFields fs) :=
      Document.canonical_ofFields fun e he =>
        (h e he).elim (fun heq => heq ▸ hnull 0) fun heq => heq ▸ hone 0
    have hempty : (Value.ofFields []).Proper :=
      Value.proper_of_canonical (n := 1) (Document.canonical_ofFields (List.forall_mem_nil _))
    simp only [entries, List.forall_mem_cons]
    exact ⟨hevent (htext _), hevent (hone 1), hevent hlist, hevent (htext _), hevent (htext _),
      hevent (hnull 1), hempty, hevent (hobject (by simp)), hevent (hobject (by simp)),
      List.forall_mem_nil _⟩
  refine ⟨hproper, ?_⟩
  obtain ⟨kinds, -, -, hdistinct, hcount, -⟩ :=
    count_of_distinct_values ⟨"user", []⟩ entries hproper
  have hfive : count ⟨1, some ⟨"user", []⟩⟩ entries = 5 := by decide
  exact ⟨kinds, hdistinct, (hcount 1).symm.trans hfive⟩

end Tracker

end LossPrevention
