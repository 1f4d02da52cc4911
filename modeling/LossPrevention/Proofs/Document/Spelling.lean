import LossPrevention.Proofs.Document.Strict
import LossPrevention.Proofs.Json.Numbers

/-!
Documents that spell a value. The fields of an object may be written in any order; a document that
spells a value whose objects are in order becomes this value again.
-/

namespace LossPrevention

open Json (Number Value)

namespace Json

namespace Value

mutual

/-- All objects in the value have their keys in ascending order. -/
def Sorted : Value → Prop
  | list items => SortedItems items
  | object fields => Keyed.Ascending fields ∧ SortedFields fields
  | _ => True

def SortedItems : List Value → Prop
  | [] => True
  | v :: vs => Sorted v ∧ SortedItems vs

def SortedFields : List (String × Value) → Prop
  | [] => True
  | (_, v) :: fs => Sorted v ∧ SortedFields fs

end

theorem sortedItems_iff {items : List Value} : SortedItems items ↔ ∀ v ∈ items, v.Sorted := by
  induction items with
  | nil => simp [SortedItems]
  | cons v rest ih => rw [SortedItems, ih, List.forall_mem_cons]

theorem sortedFields_iff {fields : List (String × Value)} :
    SortedFields fields ↔ ∀ e ∈ fields, e.2.Sorted := by
  induction fields with
  | nil => simp [SortedFields]
  | cons e rest ih => rw [SortedFields, ih, List.forall_mem_cons]

end Value

end Json

namespace Document

def ofPairs (pairs : List (String × Document)) : Document :=
  record (pairs.map fun e => (text e.1, e.2))

mutual

/-- The document writes the value, with the fields of objects in any order. -/
def Spells : Value → Document → Prop
  | .null, d => d = null
  | .bool b, d => d = bool b
  | .number n, d => d = number n
  | .text s, d => d = text s
  | .list vs, d => ∃ ds, d = list ds ∧ SpellsItems vs ds
  | .object fs, d => ∃ pairs ordered, d = ofPairs pairs ∧ List.Perm ordered pairs ∧
      SpellsFields fs ordered

def SpellsItems : List Value → List Document → Prop
  | [], ds => ds = []
  | v :: vs, ds => ∃ e es, ds = e :: es ∧ Spells v e ∧ SpellsItems vs es

def SpellsFields : List (String × Value) → List (String × Document) → Prop
  | [], pairs => pairs = []
  | (k, v) :: fs, pairs => ∃ d rest, pairs = (k, d) :: rest ∧ Spells v d ∧ SpellsFields fs rest

end

theorem record_ofFields (fs : List (String × Value)) :
    record (ofFields fs) = ofPairs (fs.map fun e => (e.1, ofValue e.2)) := by
  have hfields : ofFields fs = (fs.map fun e => (e.1, ofValue e.2)).map
      fun e => (text e.1, e.2) := by
    induction fs with
    | nil => rfl
    | cons e rest ih =>
        obtain ⟨k, v⟩ := e
        rw [ofFields, ih]
        rfl
  rw [ofPairs, hfields]

mutual

theorem spells_ofValue : ∀ v : Value, Spells v (ofValue v)
  | .null | .bool _ | .number _ | .text _ => rfl
  | .list vs => ⟨_, rfl, spells_ofItems vs⟩
  | .object fs => ⟨_, _, record_ofFields fs, .refl _, spells_ofFields fs⟩

theorem spells_ofItems : ∀ vs : List Value, SpellsItems vs (ofItems vs)
  | [] => rfl
  | v :: vs => ⟨_, _, rfl, spells_ofValue v, spells_ofItems vs⟩

theorem spells_ofFields : ∀ fs : List (String × Value),
    SpellsFields fs (fs.map fun e => (e.1, ofValue e.2))
  | [] => rfl
  | (_, v) :: fs => ⟨_, _, rfl, spells_ofValue v, spells_ofFields fs⟩

end

/-! ### Numbers and depth -/

section Pairs

variable {P : Number → Prop} {pairs : List (String × Document)}

theorem strict_ofPairs_iff : (ofPairs pairs).Strict P ↔ ∀ e ∈ pairs, e.2.Strict P := by
  rw [ofPairs, Strict, strictFields_iff, List.forall_mem_map]
  exact forall₂_congr fun e _ => and_iff_right ⟨e.1, rfl⟩

theorem depth_ofPairs_le_iff {n : Nat} :
    (ofPairs pairs).depth ≤ n + 1 ↔ ∀ e ∈ pairs, e.2.depth ≤ n := by
  rw [ofPairs, depth, Nat.add_le_add_iff_right, fieldsDepth_le_iff, List.forall_mem_map]
  exact forall₂_congr fun e _ => and_iff_right (Nat.zero_le n)

end Pairs

mutual

theorem Spells.strict {P : Number → Prop} : ∀ {v : Value} {d : Document}, Spells v d →
    (ofValue v).Strict P → d.Strict P
  | .null, _, h, hv | .bool _, _, h, hv | .number _, _, h, hv | .text _, _, h, hv => by
      rw [h]
      exact hv
  | .list _, _, ⟨_, hd, hds⟩, hv => by
      rw [hd]
      exact SpellsItems.strict hds hv
  | .object fs, _, ⟨_, _, hd, hperm, hfs⟩, hv => by
      rw [hd, strict_ofPairs_iff]
      exact fun e he => SpellsFields.strict hfs hv e (hperm.mem_iff.2 he)

theorem SpellsItems.strict {P : Number → Prop} : ∀ {vs : List Value} {ds : List Document},
    SpellsItems vs ds → StrictItems P (ofItems vs) → StrictItems P ds
  | [], _, h, _ => by
      rw [h]
      trivial
  | _ :: _, _, ⟨_, _, hds, hd, hrest⟩, hv => by
      rw [hds]
      exact ⟨Spells.strict hd hv.1, SpellsItems.strict hrest hv.2⟩

theorem SpellsFields.strict {P : Number → Prop} : ∀ {fs : List (String × Value)}
    {pairs : List (String × Document)}, SpellsFields fs pairs → StrictFields P (ofFields fs) →
    ∀ e ∈ pairs, e.2.Strict P
  | [], _, h, _ => by
      rw [h]
      exact nofun
  | _ :: _, _, ⟨_, _, hpairs, hd, hrest⟩, hv => by
      rw [hpairs]
      exact List.forall_mem_cons.2 ⟨Spells.strict hd hv.1, SpellsFields.strict hrest hv.2⟩

end

mutual

theorem Spells.depth_le : ∀ {v : Value} {d : Document} {n : Nat}, Spells v d →
    (ofValue v).depth ≤ n → d.depth ≤ n
  | .null, _, _, h, hv | .bool _, _, _, h, hv | .number _, _, _, h, hv | .text _, _, _, h, hv => by
      rw [h]
      exact hv
  | .list _, _, n + 1, ⟨_, hd, hds⟩, hv => by
      rw [hd]
      exact Nat.succ_le_succ (SpellsItems.depth_le hds (Nat.le_of_succ_le_succ hv))
  | .object fs, _, n + 1, ⟨_, _, hd, hperm, hfs⟩, hv => by
      rw [hd, depth_ofPairs_le_iff]
      exact fun e he => SpellsFields.depth_le hfs (Nat.le_of_succ_le_succ hv) e
        (hperm.mem_iff.2 he)

theorem SpellsItems.depth_le : ∀ {vs : List Value} {ds : List Document} {n : Nat},
    SpellsItems vs ds → itemsDepth (ofItems vs) ≤ n → itemsDepth ds ≤ n
  | [], _, _, h, _ => by
      rw [h]
      exact Nat.zero_le _
  | _ :: _, _, _, ⟨_, _, hds, hd, hrest⟩, hv => by
      obtain ⟨hfirst, hothers⟩ := Nat.max_le.1 hv
      rw [hds]
      exact Nat.max_le.2 ⟨Spells.depth_le hd hfirst, SpellsItems.depth_le hrest hothers⟩

theorem SpellsFields.depth_le : ∀ {fs : List (String × Value)}
    {pairs : List (String × Document)} {n : Nat}, SpellsFields fs pairs →
    fieldsDepth (ofFields fs) ≤ n → ∀ e ∈ pairs, e.2.depth ≤ n
  | [], _, _, h, _ => by
      rw [h]
      exact nofun
  | _ :: _, _, _, ⟨_, _, hpairs, hd, hrest⟩, hv => by
      obtain ⟨hfirst, hothers⟩ := Nat.max_le.1 hv
      rw [hpairs]
      exact List.forall_mem_cons.2
        ⟨Spells.depth_le hd (Nat.max_le.1 hfirst).2, SpellsFields.depth_le hrest hothers⟩

end

/-! ### The value again -/

theorem toFields?_perm {pairs others : List (String × Document)} (hperm : pairs.Perm others)
    {fs : List (String × Value)} (h : toFields? (pairs.map fun e => (text e.1, e.2)) = some fs) :
    ∃ gs, toFields? (others.map fun e => (text e.1, e.2)) = some gs ∧ gs.Perm fs := by
  induction hperm generalizing fs with
  | nil => exact ⟨fs, h, .refl fs⟩
  | cons e _ ih =>
      obtain ⟨v, hv, h⟩ := Option.bind_eq_some_iff.1 h
      obtain ⟨rest, hrest, h⟩ := Option.bind_eq_some_iff.1 h
      cases h
      obtain ⟨gs, hgs, hperm⟩ := ih hrest
      refine ⟨(e.1, v) :: gs, ?_, hperm.cons _⟩
      simp only [List.map_cons, toFields?, hv, hgs, bind, Option.bind]
  | swap e e' rest =>
      obtain ⟨v, hv, h⟩ := Option.bind_eq_some_iff.1 h
      obtain ⟨tail, htail, h⟩ := Option.bind_eq_some_iff.1 h
      obtain ⟨w, hw, htail⟩ := Option.bind_eq_some_iff.1 htail
      obtain ⟨us, hus, htail⟩ := Option.bind_eq_some_iff.1 htail
      cases htail
      cases h
      refine ⟨(e.1, w) :: (e'.1, v) :: us, ?_, .swap _ _ _⟩
      simp only [List.map_cons, toFields?, hv, hw, hus, bind, Option.bind]
  | trans _ _ ih ih' =>
      obtain ⟨gs, hgs, hperm⟩ := ih h
      obtain ⟨ks, hks, hperm'⟩ := ih' hgs
      exact ⟨ks, hks, hperm'.trans hperm⟩

mutual

theorem Spells.toValue? : ∀ {v : Value} {d : Document}, Spells v d → v.Sorted →
    (ofValue v).Strict Number.Fits → d.toValue? = some v
  | .null, _, h, _, _ | .bool _, _, h, _, _ | .text _, _, h, _, _ => by
      rw [h]
      rfl
  | .number n, _, h, _, hfits => by
      rw [h]
      cases n with
      | int n => rfl
      | float x =>
          have hfinite : Binary64.isFinite x = true := hfits
          rw [Document.toValue?, if_pos hfinite]
  | .list _, _, ⟨_, hd, hds⟩, hsorted, hfits => by
      rw [hd, Document.toValue?, SpellsItems.toItems? hds hsorted hfits]
      rfl
  | .object _, _, ⟨_, _, hd, hperm, hfs⟩, hsorted, hfits => by
      obtain ⟨gs, hgs, hgs'⟩ :=
        toFields?_perm hperm (SpellsFields.toFields? hfs hsorted.2 hfits)
      rw [hd, ofPairs, Document.toValue?, hgs]
      exact congrArg (fun fs => some (Value.object fs)) (Keyed.ofList_of_perm hsorted.1 hgs')

theorem SpellsItems.toItems? : ∀ {vs : List Value} {ds : List Document}, SpellsItems vs ds →
    Value.SortedItems vs → StrictItems Number.Fits (ofItems vs) → Document.toItems? ds = some vs
  | [], _, h, _, _ => by
      rw [h]
      rfl
  | _ :: _, _, ⟨_, _, hds, hd, hrest⟩, hsorted, hfits => by
      simp only [hds, Document.toItems?, Spells.toValue? hd hsorted.1 hfits.1,
        SpellsItems.toItems? hrest hsorted.2 hfits.2, bind, Option.bind]

theorem SpellsFields.toFields? : ∀ {fs : List (String × Value)}
    {pairs : List (String × Document)}, SpellsFields fs pairs → Value.SortedFields fs →
    StrictFields Number.Fits (ofFields fs) →
    Document.toFields? (pairs.map fun e => (text e.1, e.2)) = some fs
  | [], _, h, _, _ => by
      rw [h]
      rfl
  | _ :: _, _, ⟨_, _, hpairs, hd, hrest⟩, hsorted, hfits => by
      simp only [hpairs, List.map_cons, Document.toFields?, Spells.toValue? hd hsorted.1 hfits.1,
        SpellsFields.toFields? hrest hsorted.2 hfits.2, bind, Option.bind]

end

/-! ### Canonical values -/

/-- A value as documents of JSON text at most `n` deep become. -/
structure Canonical (n : Nat) (v : Value) : Prop where
  sorted : v.Sorted
  fits : (ofValue v).Strict Number.Fits
  depth_le : (ofValue v).depth ≤ n

theorem Spells.toValue?_of_canonical {v : Value} {d : Document} {n : Nat} (h : Spells v d)
    (hv : Canonical n v) : d.toValue? = some v :=
  h.toValue? hv.sorted hv.fits

theorem forall_mem_ofItems {p : Document → Prop} {vs : List Value} :
    (∀ d ∈ ofItems vs, p d) ↔ ∀ v ∈ vs, p (ofValue v) := by
  induction vs with
  | nil => simp [ofItems]
  | cons v rest ih => rw [ofItems, List.forall_mem_cons, List.forall_mem_cons, ih]

theorem canonical_list {vs : List Value} {n : Nat} (h : ∀ v ∈ vs, Canonical n v) :
    Canonical (n + 1) (.list vs) where
  sorted := Value.sortedItems_iff.2 fun v hv => (h v hv).sorted
  fits := strictItems_iff.2 (forall_mem_ofItems.2 fun v hv => (h v hv).fits)
  depth_le := Nat.succ_le_succ
    (itemsDepth_le_iff.2 (forall_mem_ofItems.2 fun v hv => (h v hv).depth_le))

theorem canonical_ofFields {fs : List (String × Value)} {n : Nat}
    (h : ∀ e ∈ fs, Canonical n e.2) : Canonical (n + 1) (.ofFields fs) where
  sorted := ⟨Keyed.ascending_ofList fs,
    Value.sortedFields_iff.2 fun e he => (h e (Keyed.mem_ofList he)).sorted⟩
  fits := by
    rw [Value.ofFields, ofValue, record_ofFields, strict_ofPairs_iff, List.forall_mem_map]
    exact fun e he => (h e (Keyed.mem_ofList he)).fits
  depth_le := by
    rw [Value.ofFields, ofValue, record_ofFields, depth_ofPairs_le_iff, List.forall_mem_map]
    exact fun e he => (h e (Keyed.mem_ofList he)).depth_le

mutual

theorem canonical_of_toValue? : ∀ {d : Document} {v : Value} {n : Nat}, d.Strict Number.Fits →
    d.depth ≤ n → d.toValue? = some v → Canonical n v
  | .null, _, _, _, _, h | .bool _, _, _, _, _, h | .text _, _, _, _, _, h => by
      cases h
      exact ⟨trivial, trivial, Nat.zero_le _⟩
  | .number (.int _), _, _, hfits, _, h => by
      cases h
      exact ⟨trivial, hfits, Nat.zero_le _⟩
  | .number (.float x), _, _, hfits, _, h => by
      have hfinite : Binary64.isFinite x = true := hfits
      rw [Document.toValue?, if_pos hfinite] at h
      cases h
      exact ⟨trivial, hfits, Nat.zero_le _⟩
  | .list _, _, _ + 1, hstrict, hdepth, h => by
      obtain ⟨vs, hvs, rfl⟩ := Option.map_eq_some_iff.1 h
      exact canonical_list
        (canonical_of_toItems? hstrict (Nat.le_of_succ_le_succ hdepth) hvs)
  | .record _, _, _ + 1, hstrict, hdepth, h => by
      obtain ⟨fs, hfs, rfl⟩ := Option.map_eq_some_iff.1 h
      exact canonical_ofFields
        (canonical_of_toFields? hstrict (Nat.le_of_succ_le_succ hdepth) hfs)

theorem canonical_of_toItems? : ∀ {ds : List Document} {vs : List Value} {n : Nat},
    StrictItems Number.Fits ds → itemsDepth ds ≤ n → toItems? ds = some vs →
    ∀ v ∈ vs, Canonical n v
  | [], _, _, _, _, h => by
      cases h
      exact nofun
  | _ :: _, _, _, ⟨hstrict, hstricts⟩, hdepth, h => by
      obtain ⟨hfirst, hothers⟩ := Nat.max_le.1 hdepth
      obtain ⟨v, hv, h⟩ := Option.bind_eq_some_iff.1 h
      obtain ⟨vs, hvs, h⟩ := Option.bind_eq_some_iff.1 h
      cases h
      exact List.forall_mem_cons.2
        ⟨canonical_of_toValue? hstrict hfirst hv, canonical_of_toItems? hstricts hothers hvs⟩

theorem canonical_of_toFields? : ∀ {entries : List (Document × Document)}
    {fs : List (String × Value)} {n : Nat}, StrictFields Number.Fits entries →
    fieldsDepth entries ≤ n → toFields? entries = some fs → ∀ e ∈ fs, Canonical n e.2
  | [], _, _, _, _, h => by
      cases h
      exact nofun
  | (.text _, _) :: _, _, _, ⟨hstrict, hstricts⟩, hdepth, h => by
      obtain ⟨hfirst, hothers⟩ := Nat.max_le.1 hdepth
      obtain ⟨v, hv, h⟩ := Option.bind_eq_some_iff.1 h
      obtain ⟨fs, hfs, h⟩ := Option.bind_eq_some_iff.1 h
      cases h
      exact List.forall_mem_cons.2
        ⟨canonical_of_toValue? hstrict (Nat.max_le.1 hfirst).2 hv,
          canonical_of_toFields? hstricts hothers hfs⟩

end

end Document

end LossPrevention
