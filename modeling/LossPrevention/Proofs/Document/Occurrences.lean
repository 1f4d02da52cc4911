import LossPrevention.Proofs.Document.Readers
import Mathlib.Logic.Function.Basic

/-!
What is written under the keys of a record, however often they are written. A reader that asks for
keys by their names gets what is under each of them, as long as none of them is written twice.
-/

namespace LossPrevention.Document

open Json (Number Value)

/-- All that is written under a key, in its order. -/
def occurrences (key : String) : List (Document × Document) → List Document
  | [] => []
  | (text k, d) :: rest => if k = key then d :: occurrences key rest else occurrences key rest
  | _ :: rest => occurrences key rest

def found (key : String) : Document → List Document
  | record entries => occurrences key entries
  | _ => []

variable {P : Number → Prop} {names : List String} {key : String} {d e : Document}
  {entries : List (Document × Document)} {slot : String → Option Document}
  {filled : List (Option Document)}

theorem toList_injective {o o' : Option Document} (h : o.toList = o'.toList) : o = o' := by
  cases o <;> cases o' <;> simp_all

theorem placeOf_eq_none_iff :
    placeOf (names.map ([·])) (.name key) = none ↔ key ∉ names := by
  rw [placeOf, List.findIdx?_eq_none_iff, List.forall_mem_map]
  constructor
  · intro h hmem
    exact absurd (h key hmem) (by simp)
  · intro h name hname
    simpa using fun heq : key = name => h (heq ▸ hname)

theorem getElem_of_placeOf {i : Nat} (h : placeOf (names.map ([·])) (.name key) = some i) :
    ∃ hi : i < names.length, names[i] = key := by
  obtain ⟨hi, hkey, -⟩ := List.findIdx?_eq_some_iff_getElem.1 h
  refine ⟨by simpa using hi, ?_⟩
  simpa [eq_comm] using hkey

theorem set_slot (hnames : names.Nodup) {i : Nat} (hi : i < names.length) (d : Document) :
    (names.map slot).set i (some d) = names.map (Function.update slot names[i] (some d)) := by
  refine List.ext_getElem (by simp) fun j hj hj' => ?_
  have hjn : j < names.length := by simpa using hj'
  rw [List.getElem_set, List.getElem_map, List.getElem_map]
  by_cases hij : i = j
  · subst hij
    rw [if_pos rfl, Function.update_self]
  · rw [if_neg hij, Function.update_of_ne fun heq => hij (hnames.getElem_inj_iff.1 heq.symm)]

/-- The entries fill the places of their keys, and no place is filled twice. -/
theorem fill?_eq_some_iff (hnames : names.Nodup) (h : StrictFields P entries) :
    fill? (names.map ([·])) (names.map slot) entries = some filled ↔
      ∃ slot', filled = names.map slot' ∧
        ∀ key ∈ names, (slot' key).toList = (slot key).toList ++ occurrences key entries := by
  induction entries generalizing slot with
  | nil =>
      simp only [fill?, occurrences, List.append_nil, Option.some_inj]
      constructor
      · rintro rfl
        exact ⟨slot, rfl, fun _ _ => rfl⟩
      · rintro ⟨slot', rfl, hslot⟩
        exact List.map_congr_left fun key hkey => (toList_injective (hslot key hkey)).symm
  | cons entry rest ih =>
      obtain ⟨key, d, rfl, -, hrest⟩ : ∃ key d, entry = (text key, d) ∧ d.Strict P ∧
          StrictFields P rest := by
        obtain ⟨k, d⟩ := entry
        cases k <;> simp_all [StrictFields]
      rw [fill?, asKey?, Option.bind_eq_bind, Option.bind_some]
      cases hplace : placeOf (names.map ([·])) (.name key) with
      | none =>
          have hkey := placeOf_eq_none_iff.1 hplace
          refine (ih hrest).trans (exists_congr fun slot' => and_congr_right fun _ => ?_)
          refine forall₂_congr fun other hother => ?_
          have hne : key ≠ other := fun heq => hkey (heq ▸ hother)
          rw [occurrences, if_neg hne]
      | some i =>
          obtain ⟨hi, rfl⟩ := getElem_of_placeOf hplace
          have hgetD : (names.map slot).getD i none = slot names[i] := by
            rw [List.getD_eq_getElem?_getD, List.getElem?_map, List.getElem?_eq_getElem hi]
            rfl
          dsimp only
          rw [hgetD, set_slot hnames hi]
          cases hslot : slot names[i] with
          | some e =>
              rw [Option.isSome_some, if_pos rfl]
              refine iff_of_false (Option.some_ne_none _).symm ?_
              rintro ⟨slot', -, hfilled⟩
              have hlength := congrArg List.length (hfilled _ (List.getElem_mem hi))
              rw [hslot, occurrences, if_pos rfl] at hlength
              generalize slot' names[i] = o at hlength
              cases o <;> simp at hlength
          | none =>
              refine (ih hrest).trans (exists_congr fun slot' => and_congr_right fun _ => ?_)
              refine forall₂_congr fun other hother => ?_
              by_cases heq : names[i] = other
              · rw [← heq, Function.update_self, hslot, occurrences, if_pos rfl]
                rfl
              · rw [Function.update_of_ne (Ne.symm heq), occurrences, if_neg heq]

theorem entries?_eq_some_iff (hnames : names.Nodup) (h : StrictFields P entries) :
    entries? (names.map ([·])) entries = some filled ↔
      ∃ slot, filled = names.map slot ∧
        ∀ key ∈ names, (slot key).toList = occurrences key entries := by
  have hfree : List.replicate (names.map ([·])).length none =
      names.map fun _ : String => (none : Option Document) := by
    rw [List.map_const', List.length_map]
  rw [entries?, hfree]
  exact fill?_eq_some_iff hnames h

theorem under?_eq_some_iff (h : d.Strict P) : d.under? key = some e ↔ found key d = [e] := by
  cases d with
  | record entries =>
      have hentries {o : Option Document} : entries? [[key]] entries = some [o] ↔
          o.toList = occurrences key entries := by
        refine (@entries?_eq_some_iff P [key] entries [o] (List.nodup_singleton key) h).trans ?_
        constructor
        · rintro ⟨slot, hslot, hall⟩
          rw [List.map_singleton, List.singleton_inj] at hslot
          rw [hslot, hall key List.mem_cons_self]
        · intro ho
          exact ⟨fun _ => o, rfl, List.forall_mem_singleton.2 ho⟩
      rw [under?, keyed?, found]
      constructor
      · intro hunder
        split at hunder
        · rename_i hgiven
          cases hunder
          exact (hentries.1 hgiven).symm
        · cases hunder
      · intro hfound
        have hgiven : entries? [[key]] entries = some [some e] := hentries.2 hfound.symm
        rw [hgiven]
  | _ => simp [under?, keyed?, found]

theorem strict_of_mem_found (h : d.Strict P) (he : e ∈ found key d) : e.Strict P := by
  cases d with
  | record entries =>
      have hentries : StrictFields P entries := h
      rw [found] at he
      clear h
      induction entries with
      | nil => cases he
      | cons entry rest ih =>
          obtain ⟨k, d⟩ := entry
          cases k with
          | text k =>
              obtain ⟨hd, hrest⟩ := hentries
              rw [occurrences] at he
              split at he
              · rcases List.mem_cons.1 he with rfl | he
                · exact hd
                · exact ih he hrest
              · exact ih he hrest
          | _ => cases hentries
  | _ => cases he

theorem asText?_eq_some_iff {t : String} (h : d.Strict P) : d.asText? = some t ↔ d = text t := by
  cases d with
  | text s => simp [asText?]
  | plain | literal | tagged | copy => cases h
  | _ => simp [asText?]

end LossPrevention.Document
