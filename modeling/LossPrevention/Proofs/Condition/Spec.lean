import LossPrevention.Condition.Spec
import LossPrevention.Proofs.Document.Readers

/-!
Conditions read back as they are written. What a record is read as depends on its keys, and the keys
that conditions are written with tell the four kinds of them apart.
-/

namespace LossPrevention.Condition.Spec

open Document
open Json (Number Value writtenField)

variable {read read' : Document → Option Spec} {d : Document} {s : Spec}

/-! ### Without fuel -/

/-- The conditions in the list under a key. -/
def childrenBy (read : Document → Option Spec) (key : String) (d : Document) :
    Option (List Spec) :=
  match d.under? key with
  | some (.list items) => items.mapM read
  | _ => none

/-- A condition of which the inner ones are read by `read`. -/
def readBy (read : Document → Option Spec) (d : Document) : Option Spec :=
  ((childrenBy read "all" d).map all).orElse fun _ =>
  ((childrenBy read "any" d).map any).orElse fun _ =>
  (((d.under? "not").bind read).map not).orElse fun _ => readLeaf? d

theorem read?_succ (fuel : Nat) (d : Document) : read? (fuel + 1) d = readBy (read? fuel) d := rfl

theorem depth_lt_of_under? {key : String} {e : Document} (h : d.under? key = some e) :
    e.depth < d.depth := (inside_of_under? (P := Number.Fits) h).2

theorem readBy_congr (h : ∀ e, e.depth < d.depth → read e = read' e) :
    readBy read d = readBy read' d := by
  have hchildren (key : String) : childrenBy read key d = childrenBy read' key d := by
    cases hunder : d.under? key with
    | none => rw [childrenBy, childrenBy, hunder]
    | some e =>
        have hless := depth_lt_of_under? hunder
        cases e with
        | list items =>
            rw [childrenBy, childrenBy, hunder]
            refine mapM_congr fun e he => h e (Nat.lt_of_le_of_lt ?_ hless)
            exact Nat.le_succ_of_le (itemsDepth_le_iff.1 (Nat.le_refl _) e he)
        | _ => rw [childrenBy, childrenBy, hunder]
  have hnot : (d.under? "not").bind read = (d.under? "not").bind read' :=
    Option.bind_congr fun e he => h e (depth_lt_of_under? he)
  rw [readBy, readBy, hchildren, hchildren, hnot]

theorem read?_eq_read? {fuel fuel' : Nat} (h : d.depth < fuel) (h' : d.depth < fuel') :
    read? fuel d = read? fuel' d := by
  induction fuel generalizing fuel' d with
  | zero => cases h
  | succ fuel ih =>
      obtain _ | fuel' := fuel'
      · cases h'
      rw [read?_succ, read?_succ]
      exact readBy_congr fun e he => ih (by omega) (by omega)

theorem ofDocument?_eq (d : Document) : ofDocument? d = readBy ofDocument? d := by
  rw [ofDocument?, read?_succ]
  exact readBy_congr fun e he => read?_eq_read? he (Nat.lt_succ_self _)

/-! ### What is written -/

theorem toValues_eq_map (children : List Spec) : toValues children = children.map toValue := by
  induction children with
  | nil => rfl
  | cons s rest ih => rw [toValues, ih, List.map_cons]

def leafFields (field operator : String) (value : Option Value) : List (String × Option Value) :=
  [("field", some (.text field)), ("operator", some (.text operator)), ("value", value)]

theorem toValue_leaf (field operator : String) (value : Option Value) :
    toValue (leaf field operator value) =
      .ofFields ((leafFields field operator value).flatMap writtenField) := by
  have hkeys : ["field", "operator", "value"].Pairwise (· < ·) := by decide
  rw [@Json.ofFields_written (leafFields field operator value) hkeys]
  cases value <;> rfl

/-! ### Reading back -/

section Spelled

variable {fs : List (String × Value)} {pairs : List (String × Document)} {children : List Spec}
  {n : Nat}

theorem childrenBy_eq_none (h : SpellsRecord fs pairs) {key : String} (hkey : key ∉ Keyed.keys fs) :
    childrenBy read key (ofPairs pairs) = none := by
  rw [childrenBy, h.under?_eq_none hkey]

theorem childrenBy_singleton {key : String}
    (h : SpellsRecord [(key, .list (children.map toValue))] pairs)
    (hchildren : ∀ s ∈ children, Restores read n s.toValue s) :
    childrenBy read key (ofPairs pairs) = some children := by
  obtain ⟨d, hd, hspells⟩ := h.exists_under? (if_pos rfl)
  obtain ⟨ds, rfl, hds⟩ := hspells
  rw [childrenBy, hd]
  exact mapM_of_spellsItems hds fun s hs => (hchildren s hs).reads

theorem nodup_keys_singleton (key : String) (v : Value) : (Keyed.keys [(key, v)]).Nodup :=
  List.nodup_singleton key

theorem canonical_singleton {v : Value} (h : Canonical n v) (key : String) :
    Canonical (n + 1) (.ofFields [(key, v)]) :=
  canonical_ofFields (List.forall_mem_singleton.2 h)

theorem canonical_children (h : ∀ s ∈ children, Restores read n s.toValue s) :
    Canonical (n + 1) (.list (children.map toValue)) :=
  canonical_list (List.forall_mem_map.2 fun s hs => (h s hs).canonical)

/-- A condition that is written as the list of its children under one key. -/
theorem restores_group {key : String}
    (hchildren : ∀ s ∈ children, Restores ofDocument? n s.toValue s)
    (hvalue : s.toValue = .ofFields [(key, .list (children.map toValue))])
    (hread : ∀ {pairs}, SpellsRecord [(key, .list (children.map toValue))] pairs →
      readBy ofDocument? (ofPairs pairs) = some s) :
    Restores ofDocument? (n + 2) s.toValue s := by
  rw [hvalue]
  refine ⟨canonical_singleton (canonical_children hchildren) _, fun {d} hspells => ?_⟩
  obtain ⟨pairs, rfl, hrecord⟩ := exists_pairs_of_spells (nodup_keys_singleton _ _) hspells
  rw [ofDocument?_eq, hread hrecord]

theorem restores_all (h : ∀ s ∈ children, Restores ofDocument? n s.toValue s) :
    Restores ofDocument? (n + 2) (all children).toValue (all children) := by
  refine @restores_group _ _ _ "all" h ?_ fun hrecord => ?_
  · rw [toValue, toValues_eq_map]
    rfl
  · rw [readBy, childrenBy_singleton hrecord h]
    rfl

theorem restores_any (h : ∀ s ∈ children, Restores ofDocument? n s.toValue s) :
    Restores ofDocument? (n + 2) (any children).toValue (any children) := by
  have hall : "all" ∉ ["any"] := by decide
  refine @restores_group _ _ _ "any" h ?_ fun hrecord => ?_
  · rw [toValue, toValues_eq_map]
    rfl
  · rw [readBy, childrenBy_eq_none hrecord hall, childrenBy_singleton hrecord h]
    rfl

theorem restores_not (h : Restores ofDocument? n s.toValue s) :
    Restores ofDocument? (n + 1) (not s).toValue (not s) := by
  have hvalue : (not s).toValue = .ofFields [("not", s.toValue)] := by
    rw [toValue]
    rfl
  rw [hvalue]
  refine ⟨canonical_singleton h.canonical _, fun {d} hspells => ?_⟩
  obtain ⟨pairs, rfl, hrecord⟩ := exists_pairs_of_spells (nodup_keys_singleton _ _) hspells
  obtain ⟨d, hd, hinner⟩ := hrecord.exists_under? (if_pos rfl)
  have hall : "all" ∉ ["not"] := by decide
  have hany : "any" ∉ ["not"] := by decide
  rw [ofDocument?_eq, readBy, childrenBy_eq_none hrecord hall, childrenBy_eq_none hrecord hany, hd,
    Option.bind_some, h.reads hinner]
  rfl

theorem restores_leaf (field operator : String) {value : Option Value}
    (h : RestoresField (optional? toValue?) n value value) :
    Restores ofDocument? (n + 1) (leaf field operator value).toValue
      (leaf field operator value) := by
  have hfield := (restores_text field n).bind
  have hoperator : RestoresField (orElse? defaultOperator asText?) n (some (.text operator))
      operator := (restores_text operator n).orElse?
  have hkeys : (Keyed.keys (leafFields field operator value)).Nodup := by
    change ["field", "operator", "value"].Nodup
    decide
  have hother {key : String} (hkey : key ∉ ["field", "operator", "value"]) :
      key ∉ Keyed.keys ((leafFields field operator value).flatMap writtenField) :=
    fun hmem => hkey ((Json.keys_written_sublist _).subset hmem)
  rw [toValue_leaf]
  refine ⟨canonical_written ?_, fun {d} hspells => ?_⟩
  · simp only [leafFields, List.forall_mem_cons]
    exact ⟨hfield.canonical, hoperator.canonical, h.canonical, nofun⟩
  obtain ⟨pairs, rfl, hrecord⟩ :=
    exists_pairs_of_spells (hkeys.sublist (Json.keys_written_sublist _)) hspells
  have hleaf : readLeaf? (ofPairs pairs) = some (leaf field operator value) := by
    obtain ⟨slots, hslots, hrel⟩ :=
      @SpellsRecord.entries? [["field"], ["operator"], ["value"]] _ _ (by decide) rfl hrecord
    rcases hrel with _ | ⟨hrel, _ | ⟨hrel', _ | ⟨hrel'', _ | _⟩⟩⟩
    simp only [readLeaf?, ofPairs, keyed?, hslots, hfield.reads hrel, hoperator.reads hrel',
      h.reads hrel'', Option.bind_eq_bind, Option.bind_some]
  rw [ofDocument?_eq, readBy, childrenBy_eq_none hrecord (hother (by decide)),
    childrenBy_eq_none hrecord (hother (by decide)), hrecord.under?_eq_none (hother (by decide)),
    hleaf]
  rfl

end Spelled

/-! ### Whatever is read -/

theorem restores_children {n : Nat} {key : String} {children : List Spec}
    (hstrict : d.Strict Number.Fits) (hdepth : d.depth ≤ n)
    (h : childrenBy ofDocument? key d = some children)
    (ih : ∀ {e t m}, e.Strict Number.Fits → e.depth ≤ m → m < n → ofDocument? e = some t →
      Restores ofDocument? m t.toValue t) :
    ∃ m, n = m + 2 ∧ ∀ s ∈ children, Restores ofDocument? m s.toValue s := by
  rw [childrenBy] at h
  split at h
  · rename_i items hitems
    obtain ⟨hinner, hless⟩ := inside_of_under? (P := Number.Fits) hitems
    rw [depth] at hless
    obtain ⟨m, rfl⟩ : ∃ m, n = m + 2 := ⟨n - 2, by omega⟩
    refine ⟨m, rfl, fun s hs => ?_⟩
    obtain ⟨e, he, hread⟩ := mem_of_mapM h hs
    exact ih (strictItems_iff.1 (hinner hstrict) e he)
      (itemsDepth_le_iff.1 (by omega) e he) (by omega) hread
  · cases h

theorem readBy_cases (h : readBy read d = some s) :
    (∃ children, childrenBy read "all" d = some children ∧ s = all children) ∨
    (∃ children, childrenBy read "any" d = some children ∧ s = any children) ∨
    (∃ e child, d.under? "not" = some e ∧ read e = some child ∧ s = not child) ∨
    readLeaf? d = some s := by
  rcases of_orElse_eq_some h with h | ⟨-, h⟩
  · obtain ⟨children, hchildren, rfl⟩ := Option.map_eq_some_iff.1 h
    exact .inl ⟨children, hchildren, rfl⟩
  rcases of_orElse_eq_some h with h | ⟨-, h⟩
  · obtain ⟨children, hchildren, rfl⟩ := Option.map_eq_some_iff.1 h
    exact .inr (.inl ⟨children, hchildren, rfl⟩)
  rcases of_orElse_eq_some h with h | ⟨-, h⟩
  · obtain ⟨child, hchild, rfl⟩ := Option.map_eq_some_iff.1 h
    obtain ⟨e, he, hread⟩ := Option.bind_eq_some_iff.1 hchild
    exact .inr (.inr (.inl ⟨e, child, he, hread, rfl⟩))
  · exact .inr (.inr (.inr h))

theorem restores_of_readLeaf? {n : Nat} (hstrict : d.Strict Number.Fits) (hdepth : d.depth ≤ n)
    (h : readLeaf? d = some s) : Restores ofDocument? n s.toValue s := by
  obtain ⟨slots, hslots, h⟩ := Option.bind_eq_some_iff.1 h
  have hpos := depth_pos_of_keyed? hslots
  obtain ⟨m, rfl⟩ : ∃ m, n = m + 1 := ⟨n - 1, by omega⟩
  have hinside := inside_fields? (fields?_of_keyed? hslots) hstrict hdepth
  split at h
  · obtain ⟨field, -, h⟩ := Option.bind_eq_some_iff.1 h
    obtain ⟨operator, -, h⟩ := Option.bind_eq_some_iff.1 h
    obtain ⟨value, hvalue, h⟩ := Option.bind_eq_some_iff.1 h
    cases h
    simp only [List.forall_mem_cons] at hinside
    have hrestores := faithful_value.optional? hinside.2.2.1 (Nat.zero_le m) value_ne_null hvalue
    rw [Option.map_id] at hrestores
    exact restores_leaf field operator hrestores
  · cases h

theorem faithful : Faithful ofDocument? toValue 0 := by
  intro d s n hstrict hdepth _ h
  induction n using Nat.strongRecOn generalizing d s with
  | ind n ih =>
      have ih {e : Document} {t : Spec} {m : Nat} (he : e.Strict Number.Fits) (hem : e.depth ≤ m)
          (hm : m < n) (ht : ofDocument? e = some t) : Restores ofDocument? m t.toValue t :=
        ih m hm he hem (Nat.zero_le m) ht
      rw [ofDocument?_eq] at h
      obtain ⟨children, hchildren, rfl⟩ | ⟨children, hchildren, rfl⟩ | ⟨e, child, he, hchild, rfl⟩ |
        hleaf := readBy_cases h
      · obtain ⟨m, rfl, hall⟩ := restores_children hstrict hdepth hchildren ih
        exact restores_all hall
      · obtain ⟨m, rfl, hall⟩ := restores_children hstrict hdepth hchildren ih
        exact restores_any hall
      · obtain ⟨hinner, hless⟩ := inside_of_under? (P := Number.Fits) he
        obtain ⟨m, rfl⟩ : ∃ m, n = m + 1 := ⟨n - 1, by omega⟩
        exact restores_not (ih (hinner hstrict) (by omega) (Nat.lt_succ_self m) hchild)
      · exact restores_of_readLeaf? hstrict hdepth hleaf

end LossPrevention.Condition.Spec
