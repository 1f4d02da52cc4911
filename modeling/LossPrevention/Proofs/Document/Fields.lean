import LossPrevention.Document.Fields
import LossPrevention.Proofs.Document.Spelling
import LossPrevention.Proofs.Json.Fields
import Mathlib.Data.List.Forall2
import Mathlib.Data.List.Nodup
import Mathlib.Data.List.Perm.Basic
import Mathlib.Data.Option.Basic

/-!
The fields of a record. A record with different keys gives for each field what is under its name,
and what a field is given lies inside the record. The keys of a spelling are those of the value.
-/

namespace LossPrevention.Document

open Json (Number Value writtenField)

variable {fields : List (List String)} {pairs : List (String × Document)}

/-! ### What a record gives -/

/-- What is under the first of the names. -/
def given (pairs : List (String × Document)) (names : List String) : Option Document :=
  names.head?.bind (Keyed.get? · pairs)

theorem given_cons_self {names : List String} {key : String} (h : names.head? = some key)
    (d : Document) (pairs : List (String × Document)) :
    given ((key, d) :: pairs) names = some d := by
  rw [given, h, Option.bind_some, Keyed.get?, if_pos rfl]

theorem given_cons_of_ne {names : List String} {key : String} (h : names.head? ≠ some key)
    (d : Document) (pairs : List (String × Document)) :
    given ((key, d) :: pairs) names = given pairs names := by
  rw [given, given]
  cases hfirst : names.head? with
  | none => rfl
  | some first =>
      have hne : key ≠ first := fun heq => h (hfirst.trans (congrArg some heq.symm))
      rw [Option.bind_some, Option.bind_some, Keyed.get?, if_neg hne]

/-- Of the names of each field, just the first one is among the keys. -/
def ByFirstName (fields : List (List String)) (keys : List String) : Prop :=
  ∀ names ∈ fields, ∀ key ∈ names, key ∈ keys → names.head? = some key

theorem eq_of_mem_of_mem (hfields : fields.flatten.Nodup) {i j : Nat} (hi : i < fields.length)
    (hj : j < fields.length) {key : String} (hkey : key ∈ fields[i]) (hkey' : key ∈ fields[j]) :
    i = j := by
  have hapart := List.pairwise_iff_getElem.1 (List.nodup_flatten.1 hfields).2
  rcases Nat.lt_trichotomy i j with hlt | heq | hgt
  · exact absurd hkey' (hapart i j hi hj hlt hkey)
  · exact heq
  · exact absurd hkey (hapart j i hj hi hgt hkey')

section Heads

variable {heads : List String}

theorem nodup_of_heads (hfields : fields.flatten.Nodup)
    (hheads : fields.map List.head? = heads.map some) : heads.Nodup := by
  refine List.Nodup.of_map some ?_
  rw [← hheads]
  refine List.pairwise_map.2 (List.Pairwise.imp_of_mem ?_ (List.nodup_flatten.1 hfields).2)
  intro names others hnames _ hapart heq
  have hmem : names.head? ∈ heads.map some := hheads ▸ List.mem_map_of_mem hnames
  obtain ⟨key, -, hkey⟩ := List.mem_map.1 hmem
  exact hapart (List.mem_of_mem_head? hkey.symm) (List.mem_of_mem_head? (heq ▸ hkey.symm))

theorem byFirstName_of_heads (hfields : fields.flatten.Nodup)
    (hheads : fields.map List.head? = heads.map some) {keys : List String} (hkeys : keys ⊆ heads) :
    ByFirstName fields keys := by
  intro names hnames key hkey hgiven
  have hmem : some key ∈ fields.map List.head? := hheads ▸ List.mem_map_of_mem (hkeys hgiven)
  obtain ⟨others, hothers, hhead⟩ := List.mem_map.1 hmem
  obtain ⟨i, hi, rfl⟩ := List.getElem_of_mem hnames
  obtain ⟨j, hj, rfl⟩ := List.getElem_of_mem hothers
  cases eq_of_mem_of_mem hfields hi hj hkey (List.mem_of_mem_head? hhead)
  exact hhead

end Heads

/-- The keys go into their places, where nothing is yet. -/
theorem fill?_pairs (hfields : fields.flatten.Nodup) (hkeys : (Keyed.keys pairs).Nodup)
    (hfirst : ByFirstName fields (Keyed.keys pairs)) {slot : List String → Option Document}
    (hslot : ∀ names ∈ fields, ∀ key ∈ names, key ∈ Keyed.keys pairs → slot names = none) :
    fill? fields (fields.map slot) (pairs.map fun e => (text e.1, e.2)) =
      some (fields.map fun names => (slot names).or (given pairs names)) := by
  induction pairs generalizing slot with
  | nil =>
      refine congrArg some (List.map_congr_left fun names _ => ?_)
      cases h : names.head? <;> simp [given, h]
  | cons e rest ih =>
      obtain ⟨key, d⟩ := e
      obtain ⟨hnew, hrest⟩ := List.nodup_cons.1 hkeys
      have ih := @ih hrest fun names hnames k hk hkr =>
        hfirst names hnames k hk (List.mem_cons_of_mem _ hkr)
      have hother {names : List String} (hnames : names ∈ fields) (hkey : key ∉ names) :
          given ((key, d) :: rest) names = given rest names :=
        given_cons_of_ne (fun heq => hkey (List.mem_of_mem_head? heq)) d rest
      rw [List.map_cons, fill?, asKey?, Option.bind_eq_bind, Option.bind_some]
      cases hplace : placeOf fields (.name key) with
      | none =>
          refine (ih fun names hnames k hk hkr =>
            hslot names hnames k hk (List.mem_cons_of_mem _ hkr)).trans ?_
          refine congrArg some (List.map_congr_left fun names hnames => ?_)
          have hkey : key ∉ names := by
            simpa using List.findIdx?_eq_none_iff.1 hplace names hnames
          rw [hother hnames hkey]
      | some i =>
          obtain ⟨hi, hcontains, -⟩ := List.findIdx?_eq_some_iff_getElem.1 hplace
          have hmem : key ∈ fields[i] := List.contains_iff_mem.1 hcontains
          have hfree {names : List String} (hnames : names ∈ fields) (hkey : key ∈ names) :
              slot names = none := hslot names hnames key hkey List.mem_cons_self
          have hgetD : (fields.map slot).getD i none = none := by
            rw [List.getD_eq_getElem?_getD, List.getElem?_map, List.getElem?_eq_getElem hi,
              Option.map_some, hfree (List.getElem_mem hi) hmem, Option.getD_some]
          have hset : (fields.map slot).set i (some d) =
              fields.map fun names => if key ∈ names then some d else slot names := by
            refine List.ext_getElem (by simp) fun j hj hj' => ?_
            have hjf : j < fields.length := by simpa using hj'
            rw [List.getElem_set, List.getElem_map, List.getElem_map]
            by_cases hij : i = j
            · subst hij
              rw [if_pos rfl, if_pos hmem]
            · rw [if_neg hij, if_neg fun hm => hij (eq_of_mem_of_mem hfields hi hjf hmem hm)]
          dsimp only
          rw [hgetD, hset, Option.isSome_none, if_neg Bool.false_ne_true, ih]
          · refine congrArg some (List.map_congr_left fun names hnames => ?_)
            by_cases hkey : key ∈ names
            · rw [if_pos hkey, given_cons_self (hfirst names hnames key hkey List.mem_cons_self),
                hfree hnames hkey, Option.some_or, Option.none_or]
            · rw [if_neg hkey, hother hnames hkey]
          · intro names hnames k hk hkr
            have hkey : key ∉ names := by
              intro hkey
              have heq := (hfirst names hnames key hkey List.mem_cons_self).symm.trans
                (hfirst names hnames k hk (List.mem_cons_of_mem _ hkr))
              exact hnew (Option.some.inj heq ▸ hkr)
            rw [if_neg hkey, hslot names hnames k hk (List.mem_cons_of_mem _ hkr)]

theorem entries?_pairs (hfields : fields.flatten.Nodup) (hkeys : (Keyed.keys pairs).Nodup)
    (hfirst : ByFirstName fields (Keyed.keys pairs)) :
    entries? fields (pairs.map fun e => (text e.1, e.2)) = some (fields.map (given pairs)) := by
  have hfill := @fill?_pairs _ _ hfields hkeys hfirst (fun _ => none) fun _ _ _ _ _ => rfl
  rw [List.map_const'] at hfill
  exact hfill.trans (congrArg some (List.map_congr_left fun _ _ => Option.none_or))

theorem under?_pairs (hkeys : (Keyed.keys pairs).Nodup) (key : String) :
    (ofPairs pairs).under? key = Keyed.get? key pairs := by
  have hfirst : ByFirstName [[key]] (Keyed.keys pairs) := by
    intro names hnames k hk _
    cases List.mem_singleton.1 hnames
    cases List.mem_singleton.1 hk
    rfl
  have hentries := @entries?_pairs [[key]] pairs (List.nodup_singleton key) hkeys hfirst
  rw [under?, ofPairs, keyed?, hentries, List.map_singleton, given, List.head?_cons,
    Option.bind_some]
  cases Keyed.get? key pairs <;> rfl

/-! ### What lies inside -/

theorem mem_of_fill? {entries : List (Document × Document)} {slots filled : List (Option Document)}
    (h : fill? fields slots entries = some filled) {d : Document} (hd : some d ∈ filled) :
    some d ∈ slots ∨ ∃ e ∈ entries, e.2 = d := by
  induction entries generalizing slots with
  | nil =>
      cases h
      exact .inl hd
  | cons e rest ih =>
      have hlater {slots : List (Option Document)} (h : fill? fields slots rest = some filled) :
          some d ∈ slots ∨ ∃ e' ∈ e :: rest, e'.2 = d :=
        (ih h).imp_right fun ⟨e', he', heq⟩ => ⟨e', List.mem_cons_of_mem _ he', heq⟩
      obtain ⟨key, -, h⟩ := Option.bind_eq_some_iff.1 h
      split at h
      · exact hlater h
      · split at h
        · cases h
        · rcases hlater h with hmem | hmem
          · rcases List.mem_or_eq_of_mem_set hmem with hmem | heq
            · exact .inl hmem
            · exact .inr ⟨e, List.mem_cons_self, (Option.some.inj heq).symm⟩
          · exact .inr hmem

theorem mem_of_entries? {entries : List (Document × Document)} {slots : List (Option Document)}
    (h : entries? fields entries = some slots) {d : Document} (hd : some d ∈ slots) :
    ∃ e ∈ entries, e.2 = d :=
  (mem_of_fill? h hd).resolve_left fun hmem => nomatch List.eq_of_mem_replicate hmem

variable {P : Number → Prop} {d e : Document} {slots : List (Option Document)}

theorem inside_of_entries? {entries : List (Document × Document)}
    (h : entries? fields entries = some slots) (he : some e ∈ slots) :
    ((record entries).Strict P → e.Strict P) ∧ e.depth < (record entries).depth := by
  obtain ⟨entry, hentry, rfl⟩ := mem_of_entries? h he
  exact ⟨fun hstrict => (strictFields_iff.1 hstrict entry hentry).2,
    Nat.lt_succ_of_le (fieldsDepth_le_iff.1 (Nat.le_refl _) entry hentry).2⟩

theorem inside_of_fields? (h : d.fields? fields = some slots) (he : some e ∈ slots) :
    (d.Strict P → e.Strict P) ∧ e.depth < d.depth := by
  fun_induction Document.fields? fields d with
  | case1 entries => exact inside_of_entries? h he
  | case2 items hlength =>
      cases h
      have hmem : e ∈ items := by simpa using he
      exact ⟨fun hstrict => strictItems_iff.1 hstrict e hmem,
        Nat.lt_succ_of_le (itemsDepth_le_iff.1 (Nat.le_refl _) e hmem)⟩
  | case3 => cases h
  | case4 =>
      cases h
      exact nomatch List.eq_of_mem_replicate he
  | case5 _ d ih | case6 _ d ih => exact ⟨nofun, (ih h).2⟩
  | case7 => cases h

theorem fields?_of_keyed? (h : d.keyed? fields = some slots) : d.fields? fields = some slots := by
  rw [keyed?.eq_def] at h
  split at h
  · exact h
  · cases h

theorem depth_pos_of_keyed? (h : d.keyed? fields = some slots) : 0 < d.depth := by
  rw [keyed?.eq_def] at h
  split at h
  · exact Nat.succ_pos _
  · cases h

theorem inside_of_under? {key : String} (h : d.under? key = some e) :
    (d.Strict P → e.Strict P) ∧ e.depth < d.depth := by
  rw [under?] at h
  split at h
  · rename_i hkeyed
    cases h
    exact inside_of_fields? (fields?_of_keyed? hkeyed) List.mem_cons_self
  · cases h

/-! ### Records that spell an object -/

/-- The entries spell the fields, in any order. -/
structure SpellsRecord (fs : List (String × Value)) (pairs : List (String × Document)) : Prop where
  nodup : (Keyed.keys pairs).Nodup
  rel : ∀ key, Option.Rel Spells (Keyed.get? key fs) (Keyed.get? key pairs)

theorem SpellsFields.keys_eq : ∀ {fs : List (String × Value)} {pairs : List (String × Document)},
    SpellsFields fs pairs → Keyed.keys pairs = Keyed.keys fs
  | [], _, h => by rw [h]; rfl
  | _ :: _, _, ⟨_, _, hpairs, _, hrest⟩ => by
      rw [hpairs]
      exact congrArg _ hrest.keys_eq

theorem SpellsFields.rel : ∀ {fs : List (String × Value)} {pairs : List (String × Document)},
    SpellsFields fs pairs → ∀ key, Option.Rel Spells (Keyed.get? key fs) (Keyed.get? key pairs)
  | [], _, h, key => by
      rw [h]
      exact .none
  | (k, v) :: fs, _, ⟨d, rest, hpairs, hd, hrest⟩, key => by
      rw [hpairs, Keyed.get?, Keyed.get?]
      split
      · exact .some hd
      · exact hrest.rel key

theorem spellsFields_iff : ∀ {fs : List (String × Value)} {pairs : List (String × Document)},
    SpellsFields fs pairs ↔ List.Forall₂ (fun e e' => e.1 = e'.1 ∧ Spells e.2 e'.2) fs pairs
  | [], _ => List.forall₂_nil_left_iff.symm
  | (k, v) :: fs, pairs => by
      rw [SpellsFields, List.forall₂_cons_left_iff]
      constructor
      · rintro ⟨d, rest, rfl, hd, hrest⟩
        exact ⟨(k, d), rest, ⟨rfl, hd⟩, spellsFields_iff.1 hrest, rfl⟩
      · rintro ⟨⟨_, d⟩, rest, ⟨rfl, hd⟩, hrest, rfl⟩
        exact ⟨d, rest, rfl, hd, spellsFields_iff.2 hrest⟩

/-- The fields of an object may stay in the order in which they were listed. -/
theorem spells_ofFields_of_nodup {fs : List (String × Value)} (hkeys : (Keyed.keys fs).Nodup)
    (h : SpellsFields fs pairs) : Spells (.ofFields fs) (ofPairs pairs) := by
  obtain ⟨ordered, hfs, hperm⟩ :=
    List.perm_comp_forall₂ (Keyed.ofList_perm hkeys) (spellsFields_iff.1 h)
  exact ⟨pairs, ordered, rfl, hperm, spellsFields_iff.2 hfs⟩

theorem spells_object {fs : List (String × Value)} (hkeys : (Keyed.keys fs).Nodup) :
    Spells (.ofFields fs) (ofValue (.object fs)) := by
  rw [ofValue, record_ofFields]
  exact spells_ofFields_of_nodup hkeys (spells_ofFields fs)

theorem spellsItems_map {α : Type} {f g : α → Value} (h : ∀ x, Spells (f x) (ofValue (g x))) :
    ∀ xs : List α, SpellsItems (xs.map f) (ofItems (xs.map g))
  | [] => rfl
  | x :: xs => ⟨_, _, rfl, h x, spellsItems_map h xs⟩

theorem spellsFields_written {es es' : List (String × Option Value)}
    (h : List.Forall₂ (fun e e' => e.1 = e'.1 ∧
      Option.Rel (fun v w => Spells v (ofValue w)) e.2 e'.2) es es') :
    SpellsFields (es.flatMap writtenField)
      ((es'.flatMap writtenField).map fun e => (e.1, ofValue e.2)) := by
  induction h with
  | nil => rfl
  | @cons e e' es es' hfirst _ ih =>
      obtain ⟨key, v⟩ := e
      obtain ⟨_, w⟩ := e'
      obtain ⟨rfl, hrel⟩ := hfirst
      cases hrel with
      | none => exact ih
      | some hspells => exact ⟨_, _, rfl, hspells, ih⟩

theorem exists_pairs_of_spells {fs : List (String × Value)} (hkeys : (Keyed.keys fs).Nodup)
    (h : Spells (.ofFields fs) d) : ∃ pairs, d = ofPairs pairs ∧ SpellsRecord fs pairs := by
  obtain ⟨pairs, ordered, hd, hperm, hfs⟩ := h
  have hordered : (Keyed.keys ordered).Nodup := by
    rw [hfs.keys_eq]
    exact (Keyed.ascending_ofList fs).nodup
  refine ⟨pairs, hd, (hperm.map Prod.fst).nodup_iff.1 hordered, fun key => ?_⟩
  rw [← Keyed.get?_perm hperm hordered, ← Keyed.get?_ofList hkeys]
  exact hfs.rel key

namespace SpellsRecord

variable {fs : List (String × Value)}

theorem mem_keys_iff (h : SpellsRecord fs pairs) {key : String} :
    key ∈ Keyed.keys pairs ↔ key ∈ Keyed.keys fs := by
  rw [← not_iff_not, ← Keyed.get?_eq_none_iff, ← Keyed.get?_eq_none_iff]
  have hrel := h.rel key
  cases hvalue : Keyed.get? key fs <;> cases hgiven : Keyed.get? key pairs <;>
    simp_all

theorem under?_eq_none (h : SpellsRecord fs pairs) {key : String} (hkey : key ∉ Keyed.keys fs) :
    (ofPairs pairs).under? key = none := by
  rw [under?_pairs h.nodup, Keyed.get?_eq_none_iff, h.mem_keys_iff]
  exact hkey

theorem exists_under? (h : SpellsRecord fs pairs) {key : String} {v : Value}
    (hv : Keyed.get? key fs = some v) : ∃ d, (ofPairs pairs).under? key = some d ∧ Spells v d := by
  have hrel := h.rel key
  rw [hv] at hrel
  rw [under?_pairs h.nodup]
  cases hd : Keyed.get? key pairs with
  | none => rw [hd] at hrel; cases hrel
  | some d =>
      rw [hd] at hrel
      cases hrel with
      | some hspells => exact ⟨d, rfl, hspells⟩

theorem erase {key : String} {v : Value} (h : SpellsRecord ((key, v) :: fs) pairs)
    (hkey : key ∉ Keyed.keys fs) : SpellsRecord fs (Keyed.erase key pairs) where
  nodup := (List.filter_sublist.map Prod.fst).nodup h.nodup
  rel other := by
    by_cases hother : other = key
    · rw [hother, Keyed.get?_erase_self, Keyed.get?_eq_none_iff.2 hkey]
      exact .none
    · have hrel := h.rel other
      rw [Keyed.get?, if_neg (Ne.symm hother)] at hrel
      rw [Keyed.get?_erase_of_ne hother]
      exact hrel

/-- What the fields of a record are given spells what is written in them. -/
theorem entries? {es : List (String × Option Value)} (hfields : fields.flatten.Nodup)
    (hheads : fields.map List.head? = (Keyed.keys es).map some)
    (h : SpellsRecord (es.flatMap writtenField) pairs) :
    ∃ slots, Document.entries? fields (pairs.map fun e => (text e.1, e.2)) = some slots ∧
      List.Forall₂ (fun e slot => Option.Rel Spells e.2 slot) es slots := by
  have hkeys : (Keyed.keys es).Nodup := nodup_of_heads hfields hheads
  have hfirst : ByFirstName fields (Keyed.keys pairs) :=
    byFirstName_of_heads hfields hheads fun key hkey =>
      (Json.keys_written_sublist es).subset (h.mem_keys_iff.1 hkey)
  have hnames : List.Forall₂ (fun e names => some e.1 = List.head? names) es fields := by
    rw [Keyed.keys, List.map_map, ← List.forall₂_eq_eq_eq, List.forall₂_map_left_iff,
      List.forall₂_map_right_iff] at hheads
    exact (List.Forall₂.flip hheads).imp fun _ _ => Eq.symm
  refine ⟨_, entries?_pairs hfields h.nodup hfirst, List.forall₂_map_right_iff.2 ?_⟩
  refine ((List.forall₂_and_left _ _).2 ⟨fun e he => he, hnames⟩).imp ?_
  rintro e names ⟨he, hname⟩
  have hrel := h.rel e.1
  rw [Json.get?_written hkeys he] at hrel
  rw [given, ← hname]
  exact hrel

end SpellsRecord

end LossPrevention.Document
