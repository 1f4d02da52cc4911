import LossPrevention.Proofs.Document.Fields

/-!
Readers that know their own writing. A reader is faithful to a way of writing if whatever it reads
of a document is read again, from any spelling of what is written for it.
-/

namespace LossPrevention.Document

open Json (Number Value writtenField)

variable {α : Type} {read : Document → Option α} {encode : α → Value}

/-- A value within `n` levels of which every spelling is read as `a`. -/
structure Restores (read : Document → Option α) (n : Nat) (v : Value) (a : α) : Prop where
  canonical : Canonical n v
  reads : ∀ {d}, Spells v d → read d = some a

/-- A field that, written or left out, is read as `a`. -/
structure RestoresField (read : Option Document → Option α) (n : Nat) (v : Option Value)
    (a : α) : Prop where
  canonical : ∀ w, v = some w → Canonical n w
  reads : ∀ {slot}, Option.Rel Spells v slot → read slot = some a

/-- What is read is restored, within the levels of the document it is read from. -/
def Faithful (read : Document → Option α) (encode : α → Value) (levels : Nat) : Prop :=
  ∀ {d a n}, d.Strict Number.Fits → d.depth ≤ n → levels ≤ n → read d = some a →
    Restores read n (encode a) a

theorem of_orElse_eq_some {o : Option α} {f : Unit → Option α} {a : α} (h : o.orElse f = some a) :
    o = some a ∨ o = none ∧ f () = some a := by
  cases o with
  | none => exact .inr ⟨rfl, h⟩
  | some b => exact .inl h

/-! ### Scalars -/

theorem restores_text (s : String) (n : Nat) : Restores asText? n (.text s) s where
  canonical := ⟨trivial, trivial, Nat.zero_le n⟩
  reads h := by rw [h, asText?]

theorem restores_bool (b : Bool) (n : Nat) : Restores asBool? n (.bool b) b where
  canonical := ⟨trivial, trivial, Nat.zero_le n⟩
  reads h := by rw [h, asBool?]

theorem restores_nat {k : Nat} (hk : k < 2 ^ 64) (n : Nat) : Restores asNat? n (.ofNat k) k where
  canonical := ⟨trivial, ⟨by omega, by omega⟩, Nat.zero_le n⟩
  reads h := by
    have hword : isWord k = true := by
      simp only [isWord, Bool.and_eq_true, decide_eq_true_eq, Nat.pow_eq]
      omega
    rw [h, asNat?, if_pos hword, Int.toNat_natCast]

theorem restores_int {k : Int} (hlow : -2 ^ 63 ≤ k) (hhigh : k < 2 ^ 63) (n : Nat) :
    Restores asInt? n (.ofInt k) k where
  canonical := ⟨trivial, ⟨hlow, by omega⟩, Nat.zero_le n⟩
  reads h := by
    have hlt : k < Nat.pow 2 63 := by
      simp only [Nat.pow_eq]
      omega
    rw [h, asInt?, if_pos hlt]

theorem faithful_text : Faithful asText? .text 0 :=
  fun {_ a n} _ _ _ _ => restores_text a n

theorem faithful_bool : Faithful asBool? .bool 0 :=
  fun {_ a n} _ _ _ _ => restores_bool a n

theorem faithful_nat : Faithful asNat? .ofNat 0 := by
  intro d k n hstrict _ _ h
  refine restores_nat ?_ n
  cases d with
  | number i =>
      cases i with
      | int i =>
          rw [asNat?] at h
          split at h
          · rename_i hword
            simp only [isWord, Bool.and_eq_true, decide_eq_true_eq, Nat.pow_eq] at hword
            cases h
            omega
          · cases h
      | float x => cases h
  | _ => first | exact hstrict.elim | cases h

theorem faithful_int : Faithful asInt? .ofInt 0 := by
  intro d k n hstrict _ _ h
  cases d with
  | number i =>
      cases i with
      | int i =>
          rw [asInt?] at h
          split at h
          · rename_i hlt
            simp only [Nat.pow_eq] at hlt
            cases h
            exact restores_int hstrict.1 (by omega) n
          · cases h
      | float x => cases h
  | _ => first | exact hstrict.elim | cases h

theorem faithful_value : Faithful toValue? id 0 :=
  fun hstrict hdepth _ h =>
    have hcanonical := canonical_of_toValue? hstrict hdepth h
    ⟨hcanonical, fun hspells => hspells.toValue?_of_canonical hcanonical⟩

theorem value_ne_null {d : Document} {v : Value} (hstrict : d.Strict Number.Fits) (hd : d ≠ null)
    (h : d.toValue? = some v) : v ≠ .null := by
  rintro rfl
  cases d with
  | null => exact hd rfl
  | number n =>
      cases n with
      | int n => cases h
      | float x =>
          have hfinite : Binary64.isFinite x = true := hstrict
          rw [Document.toValue?, if_pos hfinite] at h
          cases h
  | list items | record entries =>
      obtain ⟨_, -, heq⟩ := Option.map_eq_some_iff.1 h
      cases heq
  | bool b | text s => cases h
  | _ => exact hstrict.elim

theorem text_ne_null {d : Document} {s : String} (_ : d.Strict Number.Fits) (_ : d ≠ null)
    (_ : asText? d = some s) : Value.text s ≠ .null := by
  intro h
  cases h

/-! ### Lists -/

theorem mapM_of_spellsItems {xs : List α} {ds : List Document}
    (h : SpellsItems (xs.map encode) ds)
    (hreads : ∀ x ∈ xs, ∀ {d}, Spells (encode x) d → read d = some x) :
    ds.mapM read = some xs := by
  induction xs generalizing ds with
  | nil =>
      rw [show ds = [] from h]
      rfl
  | cons x rest ih =>
      obtain ⟨d, ds, rfl, hd, hds⟩ := h
      rw [List.forall_mem_cons] at hreads
      rw [List.mapM_cons, hreads.1 hd, ih hds hreads.2]
      rfl

theorem mapM_congr {read' : Document → Option α} {ds : List Document}
    (h : ∀ d ∈ ds, read d = read' d) : ds.mapM read = ds.mapM read' := by
  induction ds with
  | nil => rfl
  | cons d rest ih =>
      rw [List.forall_mem_cons] at h
      rw [List.mapM_cons, List.mapM_cons, h.1, ih h.2]

theorem mem_of_mapM {ds : List Document} {xs : List α} (h : ds.mapM read = some xs) {x : α}
    (hx : x ∈ xs) : ∃ d ∈ ds, read d = some x := by
  induction ds generalizing xs with
  | nil =>
      cases h
      cases hx
  | cons d rest ih =>
      rw [List.mapM_cons] at h
      obtain ⟨y, hy, h⟩ := Option.bind_eq_some_iff.1 h
      obtain ⟨ys, hys, h⟩ := Option.bind_eq_some_iff.1 h
      cases h
      rcases List.mem_cons.1 hx with rfl | hx
      · exact ⟨d, List.mem_cons_self, hy⟩
      · obtain ⟨e, he, hread⟩ := ih hys hx
        exact ⟨e, List.mem_cons_of_mem _ he, hread⟩

theorem restores_list {xs : List α} {n : Nat} (h : ∀ x ∈ xs, Restores read n (encode x) x) :
    Restores (asList? read) (n + 1) (.list (xs.map encode)) xs where
  canonical := canonical_list (List.forall_mem_map.2 fun x hx => (h x hx).canonical)
  reads := fun ⟨ds, hd, hds⟩ => by
    rw [hd, asList?, asItems?, Option.bind_some]
    exact mapM_of_spellsItems hds fun x hx => (h x hx).reads

theorem restores_nil {n : Nat} (hn : 1 ≤ n) :
    Restores (asList? read) n (.list (([] : List α).map encode)) [] := by
  obtain ⟨m, rfl⟩ : ∃ m, n = m + 1 := ⟨n - 1, by omega⟩
  exact restores_list nofun

theorem Faithful.list {levels : Nat} (h : Faithful read encode levels) :
    Faithful (asList? read) (fun xs => .list (xs.map encode)) (levels + 1) := by
  intro d xs n hstrict hdepth hlevels hread
  obtain _ | n := n
  · cases hlevels
  obtain ⟨ds, hds, hread⟩ := Option.bind_eq_some_iff.1 hread
  cases d with
  | list items =>
      cases hds
      refine restores_list fun x hx => ?_
      obtain ⟨e, he, hx⟩ := mem_of_mapM hread hx
      exact h (strictItems_iff.1 hstrict e he)
        (itemsDepth_le_iff.1 (Nat.le_of_succ_le_succ hdepth) e he) (Nat.le_of_succ_le_succ hlevels)
        hx
  | _ => first | exact hstrict.elim | cases hds

/-! ### Fields -/

/-- What is given for a field, if anything, lies within `n` levels. -/
def Inside (n : Nat) (slot : Option Document) : Prop :=
  ∀ d, slot = some d → d.Strict Number.Fits ∧ d.depth ≤ n

section Slot

variable {levels n : Nat} {slot : Option Document} {a value : α} {o : Option α}

theorem Restores.bind (h : Restores read n (encode a) a) :
    RestoresField (·.bind read) n (some (encode a)) a where
  canonical _ heq := Option.some.inj heq ▸ h.canonical
  reads hslot := by
    cases hslot with
    | some hd => exact h.reads hd

theorem Restores.orElse? (h : Restores read n (encode a) a) :
    RestoresField (Document.orElse? value read) n (some (encode a)) a where
  canonical _ heq := Option.some.inj heq ▸ h.canonical
  reads hslot := by
    cases hslot with
    | some hd => exact h.reads hd

theorem Faithful.bind (h : Faithful read encode levels) (hslot : Inside n slot)
    (hlevels : levels ≤ n) (hread : slot.bind read = some a) :
    RestoresField (·.bind read) n (some (encode a)) a := by
  obtain ⟨d, hd, hread⟩ := Option.bind_eq_some_iff.1 hread
  obtain ⟨hstrict, hdepth⟩ := hslot d hd
  exact (h hstrict hdepth hlevels hread).bind

theorem Faithful.orElse? (h : Faithful read encode levels) (hslot : Inside n slot)
    (hlevels : levels ≤ n) (hvalue : Restores read n (encode value) value)
    (hread : Document.orElse? value read slot = some a) :
    RestoresField (Document.orElse? value read) n (some (encode a)) a := by
  cases slot with
  | none =>
      cases hread
      exact hvalue.orElse?
  | some d =>
      obtain ⟨hstrict, hdepth⟩ := hslot d rfl
      exact (h hstrict hdepth hlevels hread).orElse?

theorem asOption?_of_strict {P : Number → Prop} {d : Document} (h : d.Strict P) (hnull : d ≠ null) :
    asOption? read d = (read d).map some := by
  cases d with
  | null => exact absurd rfl hnull
  | plain s => exact h.elim
  | _ => rfl

theorem Spells.asOption? {v : Value} {d : Document} (h : Spells v d) (hv : v ≠ .null) :
    Document.asOption? read d = (read d).map some := by
  cases v with
  | null => exact absurd rfl hv
  | bool b | number n | text s =>
      rw [show d = _ from h]
      rfl
  | list vs =>
      obtain ⟨ds, rfl, -⟩ := h
      rfl
  | object fs =>
      obtain ⟨pairs, -, rfl, -⟩ := h
      rfl

/-- Nothing that is given is written as null, so that it does not read as if it were not given. -/
theorem Faithful.optional? (h : Faithful read encode levels) (hslot : Inside n slot)
    (hlevels : levels ≤ n)
    (hnull : ∀ {d a}, d.Strict Number.Fits → d ≠ null → read d = some a → encode a ≠ .null)
    (hread : Document.optional? read slot = some o) :
    RestoresField (Document.optional? read) n (o.map encode) o := by
  have hnone : RestoresField (Document.optional? read) n (none : Option Value) none :=
    ⟨nofun, fun hslot => by cases hslot; rfl⟩
  cases slot with
  | none =>
      cases hread
      exact hnone
  | some d =>
      obtain ⟨hstrict, hdepth⟩ := hslot d rfl
      by_cases hd : d = null
      · subst hd
        cases hread
        exact hnone
      · rw [Document.optional?, Document.orElse?, asOption?_of_strict hstrict hd] at hread
        obtain ⟨a, ha, rfl⟩ := Option.map_eq_some_iff.1 hread
        have hrestores := h hstrict hdepth hlevels ha
        refine ⟨fun _ heq => Option.some.inj heq ▸ hrestores.canonical, fun hslot => ?_⟩
        cases hslot with
        | some hspells =>
            rw [Document.optional?, Document.orElse?, hspells.asOption? (hnull hstrict hd ha),
              hrestores.reads hspells]
            rfl

end Slot

/-! ### Records -/

section Record

variable {fields : List (List String)} {es : List (String × Option Value)} {n : Nat} {a : α}
  {build : List (Option Document) → Option α}

theorem inside_fields? {d : Document} {slots : List (Option Document)}
    (h : d.fields? fields = some slots) (hstrict : d.Strict Number.Fits)
    (hdepth : d.depth ≤ n + 1) : ∀ slot ∈ slots, Inside n slot := by
  rintro slot hslot e rfl
  obtain ⟨hinner, hless⟩ := inside_of_fields? (P := Number.Fits) h hslot
  exact ⟨hinner hstrict, by omega⟩

theorem canonical_written (h : ∀ e ∈ es, ∀ v, e.2 = some v → Canonical n v) :
    Canonical (n + 1) (.ofFields (es.flatMap writtenField)) :=
  canonical_ofFields fun e he => by
    obtain ⟨e', he', -, hvalue⟩ := Json.mem_written he
    exact h e' he' e.2 hvalue

theorem SpellsRecord.fields? {pairs : List (String × Document)} (hfields : fields.flatten.Nodup)
    (hheads : fields.map List.head? = (Keyed.keys es).map some)
    (hbuild : ∀ slots, List.Forall₂ (fun e slot => Option.Rel Spells e.2 slot) es slots →
      build slots = some a)
    (h : SpellsRecord (es.flatMap writtenField) pairs) :
    (ofPairs pairs).fields? fields >>= build = some a := by
  obtain ⟨slots, hslots, hrel⟩ := h.entries? hfields hheads
  rw [ofPairs, Document.fields?, hslots]
  exact hbuild slots hrel

theorem restores_fields? (hfields : fields.flatten.Nodup)
    (hheads : fields.map List.head? = (Keyed.keys es).map some)
    (hcanonical : ∀ e ∈ es, ∀ v, e.2 = some v → Canonical n v)
    (hbuild : ∀ slots, List.Forall₂ (fun e slot => Option.Rel Spells e.2 slot) es slots →
      build slots = some a) :
    Restores (fun d => d.fields? fields >>= build) (n + 1) (.ofFields (es.flatMap writtenField))
      a where
  canonical := canonical_written hcanonical
  reads h := by
    have hkeys : (Keyed.keys (es.flatMap writtenField)).Nodup :=
      (nodup_of_heads hfields hheads).sublist (Json.keys_written_sublist es)
    obtain ⟨pairs, rfl, hrecord⟩ := exists_pairs_of_spells hkeys h
    exact hrecord.fields? hfields hheads hbuild

end Record

end LossPrevention.Document
