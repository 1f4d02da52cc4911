import LossPrevention.Proofs.Document.Spelling
import LossPrevention.Proofs.Event.Paths

/-!
Taking a field out of an event. The field is gone, and along the path to it the objects have all
their other fields as before. Main statement: what is taken out is what the path led to, and
everything that a path away from the field leads to stays.
-/

namespace LossPrevention.FieldPath

open Json (Fields Value)

def SameBut (key : String) (old new : Fields) : Prop :=
  ∀ other, other ≠ key → Keyed.get? other new = Keyed.get? other old

/-- The second value is the first one without the field that the path leads to. -/
inductive Lacks : List String → Value → Value → Prop
  | last {key : String} {old new : Fields} (hsame : SameBut key old new)
      (hgone : Keyed.get? key new = none) : Lacks [key] (.object old) (.object new)
  | step {key : String} {rest : List String} {old new : Fields} {child child' : Value}
      (hsame : SameBut key old new) (hold : Keyed.get? key old = some child)
      (hnew : Keyed.get? key new = some child') (hrest : Lacks rest child child') :
      Lacks (key :: rest) (.object old) (.object new)

/-- The event when the field has been taken out, if there is one. -/
def without (p : FieldPath) (event : Value) : Value :=
  ((p.remove event).map Prod.snd).getD event

/-! ### What is taken out -/

section Removal

variable {rest : List String} {s : String} {v w v' : Value}

theorem lacks_of_removeAt (h : removeAt s rest v = some (w, v')) :
    resolveAt (s :: rest) v = some w ∧ Lacks (s :: rest) v v' := by
  induction rest generalizing s v v' with
  | nil =>
      cases v with
      | object fields =>
          obtain ⟨u, hget, hu⟩ := Option.map_eq_some_iff.1 h
          cases hu
          refine ⟨?_, .last (fun other hne => Keyed.get?_erase_of_ne hne fields)
            (Keyed.get?_erase_self s fields)⟩
          rw [resolveAt, Value.get?, hget]
          rfl
      | _ => cases h
  | cons next rest ih =>
      cases v with
      | object fields =>
          obtain ⟨child, hchild, hrest⟩ := Option.bind_eq_some_iff.1 h
          obtain ⟨⟨u, child'⟩, hremove, hu⟩ := Option.bind_eq_some_iff.1 hrest
          cases hu
          obtain ⟨hresolve, hlacks⟩ := ih hremove
          refine ⟨?_, .step (fun other hne => Keyed.get?_insert_of_ne hne child' fields) hchild
            (Keyed.get?_insert_self s child' fields) hlacks⟩
          rw [resolveAt, Value.get?, hchild]
          exact hresolve
      | _ => cases h

theorem exists_removeAt (h : resolveAt (s :: rest) v = some w) :
    ∃ v', removeAt s rest v = some (w, v') := by
  induction rest generalizing s v with
  | nil =>
      obtain ⟨u, hu, hw⟩ := Option.bind_eq_some_iff.1 h
      cases hw
      cases v with
      | object fields => exact ⟨_, congrArg (Option.map _) hu⟩
      | _ => cases hu
  | cons next rest ih =>
      obtain ⟨child, hchild, hw⟩ := Option.bind_eq_some_iff.1 h
      obtain ⟨child', hremove⟩ := ih hw
      cases v with
      | object fields =>
          rw [Value.get?] at hchild
          exact ⟨.object (Keyed.insert s child' fields), by simp [removeAt, hchild, hremove]⟩
      | _ => cases hchild

theorem sorted_of_get? {key : String} {fields : Fields} {u : Value}
    (h : (Value.object fields).Sorted) (hu : Keyed.get? key fields = some u) : u.Sorted :=
  Value.sortedFields_iff.1 h.2 _ ((Keyed.get?_eq_some_iff h.1.nodup).1 hu)

/-- The order of the keys stays as it should be. -/
theorem sorted_of_removeAt (hv : v.Sorted) (h : removeAt s rest v = some (w, v')) :
    v'.Sorted := by
  induction rest generalizing s v v' with
  | nil =>
      cases v with
      | object fields =>
          obtain ⟨u, -, hu⟩ := Option.map_eq_some_iff.1 h
          cases hu
          refine ⟨Keyed.ascending_erase hv.1 s, Value.sortedFields_iff.2 fun e he => ?_⟩
          exact Value.sortedFields_iff.1 hv.2 e (List.mem_of_mem_filter he)
      | _ => cases h
  | cons next rest ih =>
      cases v with
      | object fields =>
          obtain ⟨child, hchild, hrest⟩ := Option.bind_eq_some_iff.1 h
          obtain ⟨⟨u, child'⟩, hremove, hu⟩ := Option.bind_eq_some_iff.1 hrest
          cases hu
          refine ⟨Keyed.ascending_insert hv.1 s child', Value.sortedFields_iff.2 fun e he => ?_⟩
          rcases Keyed.mem_insert he with rfl | he
          · exact ih (sorted_of_get? hv hchild) hremove
          · exact Value.sortedFields_iff.1 hv.2 e he
      | _ => cases h

end Removal

/-! ### What stays -/

section Lacks

variable {path front back q : List String} {v v' w : Value}

theorem Lacks.resolveAt_append (h : Lacks path v v') (more : List String) :
    resolveAt (path ++ more) v' = none := by
  induction h with
  | last hsame hgone =>
      rw [List.singleton_append, resolveAt, Value.get?, hgone]
      rfl
  | step hsame hold hnew hrest ih =>
      rw [List.cons_append, resolveAt, Value.get?, hnew]
      exact ih

theorem SameBut.resolveAt {key t : String} {old new : Fields} (h : SameBut key old new)
    (ht : t ≠ key) : resolveAt (t :: q) (.object new) = resolveAt (t :: q) (.object old) := by
  rw [FieldPath.resolveAt, FieldPath.resolveAt, Value.get?, Value.get?, h t ht]

theorem Lacks.resolveAt_of_apart (h : Lacks path v v') (hq : ¬ q <+: path) (hp : ¬ path <+: q) :
    resolveAt q v' = resolveAt q v := by
  induction h generalizing q with
  | @last key old new hsame hgone =>
      cases q with
      | nil => exact absurd List.nil_prefix hq
      | cons t q =>
          refine hsame.resolveAt ?_
          rintro rfl
          exact hp (List.cons_prefix_cons.2 ⟨rfl, List.nil_prefix⟩)
  | @step key rest old new child child' hsame hold hnew hrest ih =>
      cases q with
      | nil => exact absurd List.nil_prefix hq
      | cons t q =>
          by_cases ht : t = key
          · subst ht
            have hq' : ¬ q <+: rest := fun hpre => hq (List.cons_prefix_cons.2 ⟨rfl, hpre⟩)
            have hp' : ¬ rest <+: q := fun hpre => hp (List.cons_prefix_cons.2 ⟨rfl, hpre⟩)
            rw [resolveAt, resolveAt, Value.get?, Value.get?, hnew, hold]
            exact ih hq' hp'
          · exact hsame.resolveAt ht

/-- On the way to the field there are objects, as before. -/
theorem Lacks.exists_objects (h : Lacks (front ++ back) v v') (hback : back ≠ []) :
    ∃ old new, resolveAt front v = some (.object old) ∧ resolveAt front v' = some (.object new) ∧
      Lacks back (.object old) (.object new) := by
  induction front generalizing v v' with
  | nil =>
      rw [List.nil_append] at h
      cases h with
      | last hsame hgone => exact ⟨_, _, rfl, rfl, .last hsame hgone⟩
      | step hsame hold hnew hrest => exact ⟨_, _, rfl, rfl, .step hsame hold hnew hrest⟩
  | cons s front ih =>
      rw [List.cons_append] at h
      generalize hpath : front ++ back = path at h
      cases h with
      | last hsame hgone => exact absurd (List.append_eq_nil_iff.1 hpath).2 hback
      | step hsame hold hnew hrest =>
          subst hpath
          obtain ⟨old, new, hfront, hfront', hlacks⟩ := ih hrest
          refine ⟨old, new, ?_, ?_, hlacks⟩
          · rw [resolveAt, Value.get?, hold]
            exact hfront
          · rw [resolveAt, Value.get?, hnew]
            exact hfront'

/-- With the keys of all objects in order there is only one such value. -/
theorem Lacks.unique (h : Lacks path v v') (h' : Lacks path v w) (hv' : v'.Sorted)
    (hw : w.Sorted) : v' = w := by
  induction h generalizing w with
  | @last key old new hsame hgone =>
      generalize hpath : [key] = path at h'
      cases h' with
      | @last key' _ new' hsame' hgone' =>
          cases hpath
          refine congrArg Value.object (hv'.1.ext hw.1 fun k => ?_)
          by_cases hk : k = key
          · rw [hk, hgone, hgone']
          · rw [hsame k hk, hsame' k hk]
      | step hsame' hold' hnew' hrest' =>
          cases hpath
          cases hrest'
  | @step key rest old new child child' hsame hold hnew hrest ih =>
      generalize hpath : key :: rest = path at h'
      cases h' with
      | last hsame' hgone' =>
          cases hpath
          cases hrest
      | @step key' rest' _ new' child₁ child'' hsame' hold' hnew' hrest' =>
          cases hpath
          cases hold.symm.trans hold'
          have hchild : child' = child'' :=
            ih hrest' (sorted_of_get? hv' hnew) (sorted_of_get? hw hnew')
          refine congrArg Value.object (hv'.1.ext hw.1 fun k => ?_)
          by_cases hk : k = key
          · rw [hk, hnew, hnew', hchild]
          · rw [hsame k hk, hsame' k hk]

end Lacks

/-! ### The field and the event -/

section Field

variable (p : FieldPath) (event : Value)

theorem remove_eq_none_iff : p.remove event = none ↔ p.resolve event = none := by
  constructor
  · intro h
    cases hv : p.resolve event with
    | none => rfl
    | some v =>
        obtain ⟨rest, hremove⟩ := exists_removeAt hv
        cases h.symm.trans hremove
  · intro h
    cases hv : p.remove event with
    | none => rfl
    | some found => cases h.symm.trans (lacks_of_removeAt hv).1

variable {p event}

theorem remove_eq_some {v : Value} (h : p.resolve event = some v) :
    p.remove event = some (v, p.without event) := by
  obtain ⟨rest, hremove⟩ := exists_removeAt h
  rw [without, show p.remove event = some (v, rest) from hremove]
  rfl

theorem lacks_without {v : Value} (h : p.resolve event = some v) :
    Lacks p.segments event (p.without event) :=
  (lacks_of_removeAt (remove_eq_some h)).2

theorem resolve_without {v : Value} (h : p.resolve event = some v) :
    p.resolve (p.without event) = none := by
  have hgone := (lacks_without h).resolveAt_append []
  rwa [List.append_nil] at hgone

theorem without_of_absent (h : p.resolve event = none) : p.without event = event := by
  rw [without, (remove_eq_none_iff p event).2 h]
  rfl

theorem sorted_without (h : event.Sorted) : (p.without event).Sorted := by
  cases hv : p.resolve event with
  | none => rwa [without_of_absent hv]
  | some v => exact sorted_of_removeAt h (remove_eq_some hv)

end Field

/-- What is taken out is what the path led to, and nothing else goes. No path leads to the field or
behind it any more, every path away from it leads to what it led to before, and on the way to it
there are the objects that were there, without the field. An event in good order stays so, and then
it is determined by what is gone. -/
theorem remove_fits_resolve (p : FieldPath) (event : Value) :
    (p.remove event).map Prod.fst = p.resolve event ∧
      (p.resolve event = none → p.without event = event) ∧
      (p.resolve event ≠ none →
        (∀ q : FieldPath, p.segments <+: q.segments → q.resolve (p.without event) = none) ∧
          (∀ q : FieldPath, p.Apart q → q.resolve (p.without event) = q.resolve event) ∧
          (∀ front back, p.segments = front ++ back → back ≠ [] →
            ∃ old new, resolveAt front event = some (.object old) ∧
              resolveAt front (p.without event) = some (.object new) ∧
              Lacks back (.object old) (.object new)) ∧
          (event.Sorted → (p.without event).Sorted ∧
            ∀ v : Value, v.Sorted → Lacks p.segments event v → v = p.without event)) := by
  refine ⟨?_, without_of_absent, fun hpresent => ?_⟩
  · cases hv : p.resolve event with
    | none => rw [(remove_eq_none_iff p event).2 hv, Option.map_none]
    | some v => rw [remove_eq_some hv, Option.map_some]
  · obtain ⟨v, hv⟩ := Option.ne_none_iff_exists'.1 hpresent
    have hlacks := lacks_without hv
    refine ⟨?_, fun q hq => hlacks.resolveAt_of_apart hq.2 hq.1, ?_, ?_⟩
    · rintro q ⟨more, hmore⟩
      rw [resolve, ← hmore]
      exact hlacks.resolveAt_append more
    · rintro front back hsegments hback
      rw [hsegments] at hlacks
      exact hlacks.exists_objects hback
    · intro hsorted
      have hwithout : (p.without event).Sorted := sorted_without hsorted
      exact ⟨hwithout, fun v hv hother => hother.unique hlacks hv hwithout⟩

/-- An event whose content has a kind, which is null, and a text. -/
def labelled : Value :=
  .object [("payload", .object [("kind", .null), ("text", .text "falcon")])]

/-- A null is a field like any other: it is taken out, and the text next to it stays. -/
theorem remove_fits_resolve_null :
    let kind : FieldPath := ⟨"payload", ["kind"]⟩
    let text : FieldPath := ⟨"payload", ["text"]⟩
    (kind.remove labelled).map Prod.fst = some .null ∧
      kind.resolve (kind.without labelled) = none ∧
      text.resolve (kind.without labelled) = some (.text "falcon") ∧
      ∃ new, (top "payload").resolve (kind.without labelled) = some (.object new) ∧
        Lacks ["kind"] (.object [("kind", .null), ("text", .text "falcon")]) (.object new) := by
  intro kind text
  obtain ⟨hfound, -, hpresent⟩ := remove_fits_resolve kind labelled
  obtain ⟨hgone, hother, hway, -⟩ := hpresent nofun
  refine ⟨hfound, hgone kind (List.prefix_refl _), hother text (by decide), ?_⟩
  obtain ⟨old, new, hold, hnew, hlacks⟩ := hway ["payload"] ["kind"] rfl nofun
  cases hold
  exact ⟨new, hnew, hlacks⟩

end LossPrevention.FieldPath
