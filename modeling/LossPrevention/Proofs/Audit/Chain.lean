import LossPrevention.Audit.Trail
import Mathlib.Data.List.Forall2
import Mathlib.Tactic.Set

/-!
What a trail keeps of the records that it is given. Every record is linked to the one given just
before it, also when that one is gone by then. Main statement: after any records the trail holds
the last of them, as many as its limit allows, and verifies, whatever the hash function is.
-/

namespace LossPrevention.Audit.Trail

variable (hash : List UInt8 → String)

/-! ### Chains of records -/

/-- The hash that the next record will name: that of the last one, or `previous` before any. -/
def tip (previous : Option String) (records : List Record) : Option String :=
  match records.getLast? with
  | some r => r.hash
  | none => previous

/-- Each record has its own hash and names that of the one before it, the first one `previous`. -/
def Linked : Option String → List Record → Prop
  | _, [] => True
  | previous, r :: rest =>
      r.previousHash = previous ∧ r.hash = some (hash r.bytes) ∧ Linked r.hash rest

@[simp] theorem tip_nil (previous : Option String) : tip previous [] = previous := rfl

@[simp] theorem tip_cons (previous : Option String) (r : Record) (rest : List Record) :
    tip previous (r :: rest) = tip r.hash rest := by
  cases rest with
  | nil => rfl
  | cons s rest =>
    rw [tip, List.getLast?_cons_cons, tip, List.getLast?_eq_some_getLast (List.cons_ne_nil s rest)]

theorem tip_append (previous : Option String) (first second : List Record) :
    tip previous (first ++ second) = tip (tip previous first) second := by
  induction first generalizing previous with
  | nil => rfl
  | cons r rest ih => rw [List.cons_append, tip_cons, tip_cons, ih]

theorem linked_append (previous : Option String) (first second : List Record) :
    Linked hash previous (first ++ second) ↔
      Linked hash previous first ∧ Linked hash (tip previous first) second := by
  induction first generalizing previous with
  | nil => simp [Linked]
  | cons r rest ih => simp [Linked, ih, and_assoc]

theorem chainsWith_iff (head previous : Option String) (records : List Record) :
    chainsWith hash head previous records = true ↔
      Linked hash previous records ∧ tip previous records = head := by
  induction records generalizing previous with
  | nil => simp [chainsWith, Linked]
  | cons r rest ih => simp [chainsWith, Linked, ih, and_assoc]

/-- Neighbours in a chain, by their places. -/
theorem Linked.previousHash_eq {hash : List UInt8 → String} {previous : Option String}
    {records : List Record} (h : Linked hash previous records) {i : Nat} {r s : Record}
    (hr : records[i]? = some r) (hs : records[i + 1]? = some s) : s.previousHash = r.hash := by
  induction records generalizing previous i with
  | nil => cases hr
  | cons first rest ih =>
    cases i with
    | zero =>
      cases rest with
      | nil => cases hs
      | cons second rest =>
        cases hr
        cases hs
        exact h.2.2.1
    | succ i => exact ih h.2.2 hr hs

theorem Linked.hash_eq {hash : List UInt8 → String} {previous : Option String}
    {records : List Record} (h : Linked hash previous records) :
    ∀ r ∈ records, r.hash = some (hash r.bytes) := by
  induction records generalizing previous with
  | nil => exact nofun
  | cons first rest ih =>
    intro r hr
    rcases List.mem_cons.1 hr with rfl | hr
    · exact h.2.1
    · exact ih h.2.2 r hr

/-! ### Additions -/

def addAllWith (t : Trail) (events : List Record) : Trail := events.foldl (addWith hash) t

/-- What each addition leaves at the end of the trail. -/
def addedWith (t : Trail) : List Record → List Record
  | [] => []
  | r :: rest =>
      (t.addWith hash r).records.getLast?.toList ++ addedWith (t.addWith hash r) rest

/-- How a trail stands that has been given the records `past`. -/
structure Holds (past : List Record) (t : Trail) : Prop where
  limit_pos : 0 < t.limit
  records_eq : t.records = past.drop (past.length - t.limit)
  evicted_eq : t.evicted = past.length - t.limit
  head_eq : t.head = tip none past
  linked : Linked hash none past

/-- The record as it is given, but for the two hashes. -/
def Supplied (given added : Record) : Prop :=
  added = { given with hash := added.hash, previousHash := added.previousHash }

section Step

variable {hash}

theorem holds_empty (maxRecords : Nat) : Holds hash [] (empty maxRecords) where
  limit_pos := Nat.lt_of_lt_of_le Nat.one_pos (Nat.le_max_left _ _)
  records_eq := List.drop_nil.symm
  evicted_eq := (Nat.zero_sub _).symm
  head_eq := rfl
  linked := trivial

theorem length_records {past : List Record} {t : Trail} (h : Holds hash past t) :
    t.records.length = min past.length t.limit := by
  rw [h.records_eq, List.length_drop]
  omega

theorem holds_add {past : List Record} {t : Trail} (h : Holds hash past t) (r : Record) :
    Holds hash (past ++ [t.linkedWith hash r]) (t.addWith hash r) := by
  have hlimit : (t.addWith hash r).limit = t.limit := rfl
  have hpos := h.limit_pos
  -- the trail drops one record more just when it is full
  have hsurplus : t.records.length + 1 - t.limit = past.length + 1 - t.limit -
      (past.length - t.limit) := by
    rw [length_records h]
    omega
  have hlength : (past ++ [t.linkedWith hash r]).length = past.length + 1 := by simp
  refine ⟨h.limit_pos, ?_, ?_, ?_, ?_⟩
  · have hle : past.length + 1 - t.limit ≤ past.length := by omega
    have hsum : past.length - t.limit + (t.records.length + 1 - t.limit) =
        past.length + 1 - t.limit := by omega
    rw [hlength, hlimit, List.drop_append_of_le_length hle, ← hsum, ← List.drop_drop,
      ← h.records_eq]
    rfl
  · have hevicted : (t.addWith hash r).evicted =
        t.evicted + (t.records.length + 1 - t.limit) := rfl
    rw [hlength, hlimit, hevicted, h.evicted_eq]
    omega
  · rw [tip_append]
    rfl
  · rw [linked_append, ← h.head_eq]
    exact ⟨h.linked, rfl, rfl, trivial⟩

theorem getLast?_addWith (t : Trail) (r : Record) :
    (t.addWith hash r).records.getLast? = some (t.linkedWith hash r) := by
  simp [addWith]

theorem addedWith_cons (t : Trail) (r : Record) (rest : List Record) :
    addedWith hash t (r :: rest) =
      t.linkedWith hash r :: addedWith hash (t.addWith hash r) rest := by
  rw [addedWith, getLast?_addWith]
  rfl

theorem holds_addAll {past : List Record} {t : Trail} (h : Holds hash past t)
    (events : List Record) :
    Holds hash (past ++ addedWith hash t events) (t.addAllWith hash events) := by
  induction events generalizing past t with
  | nil =>
    rw [addedWith, List.append_nil]
    exact h
  | cons r rest ih =>
    rw [addedWith_cons, ← List.singleton_append, ← List.append_assoc]
    exact ih (holds_add h r)

theorem forall₂_supplied (t : Trail) (events : List Record) :
    List.Forall₂ Supplied events (addedWith hash t events) := by
  induction events generalizing t with
  | nil => exact .nil
  | cons r rest ih =>
    rw [addedWith_cons]
    exact .cons rfl (ih _)

theorem limit_addAllWith (t : Trail) (events : List Record) :
    (t.addAllWith hash events).limit = t.limit := by
  induction events generalizing t with
  | nil => rfl
  | cons r rest ih => exact ih _

/-- The oldest record that is kept names the hash of the one dropped before it, if any was. -/
theorem verifyWith_of_holds {past : List Record} {t : Trail} (h : Holds hash past t) :
    t.verifyWith hash = true := by
  have hsplit : past = past.take (past.length - t.limit) ++ t.records := by
    rw [h.records_eq, List.take_append_drop]
  have hlinked := h.linked
  have hhead := h.head_eq
  rw [hsplit, linked_append] at hlinked
  rw [hsplit, tip_append] at hhead
  set anchor := tip none (past.take (past.length - t.limit)) with hanchor
  have hfirst : t.evicted = 0 → anchor = none := by
    intro he
    rw [hanchor, ← h.evicted_eq, he, List.take_zero, tip_nil]
  unfold verifyWith
  cases hrecords : t.records with
  | nil =>
    have hzero := length_records h
    have hpos := h.limit_pos
    rw [hrecords, List.length_nil] at hzero
    have hpast : past = [] := List.eq_nil_of_length_eq_zero (by omega)
    simp [chainsWith, h.head_eq, hpast]
  | cons r rest =>
    rw [hrecords] at hlinked hhead
    have hprevious : r.previousHash = anchor := hlinked.2.1
    have hchain : chainsWith hash t.head anchor (r :: rest) = true :=
      (chainsWith_iff hash _ _ _).2 ⟨hlinked.2, hhead.symm⟩
    simp only [List.head?_cons, Option.bind_some, hprevious, hchain, Bool.and_true]
    by_cases he : t.evicted = 0
    · simp [he, hfirst he]
    · simp [he]

end Step

/-- The records `added` are a chain, made of the ones that were given. -/
structure Chain (given added : List Record) : Prop where
  length_eq : added.length = given.length
  supplied : ∀ (i : Nat) r s, given[i]? = some r → added[i]? = some s → Supplied r s
  hashed : ∀ r ∈ added, r.hash = some (hash r.bytes)
  first : ∀ r, added[0]? = some r → r.previousHash = none
  next : ∀ (i : Nat) r s, added[i]? = some r → added[i + 1]? = some s → s.previousHash = r.hash

theorem chain_of_linked {given added : List Record} (hgiven : List.Forall₂ Supplied given added)
    (hlinked : Linked hash none added) : Chain hash given added where
  length_eq := hgiven.length_eq.symm
  supplied := by
    intro i r s hr hs
    obtain ⟨hi, rfl⟩ := List.getElem?_eq_some_iff.1 hr
    obtain ⟨hj, rfl⟩ := List.getElem?_eq_some_iff.1 hs
    exact hgiven.get hi hj
  hashed := hlinked.hash_eq
  first := by
    intro r hr
    cases added with
    | nil => cases hr
    | cons first rest =>
      cases hr
      exact hlinked.1
  next := fun _ _ _ hr hs => hlinked.previousHash_eq hr hs

theorem trail_after_additions (maxRecords : Nat) (given : List Record) :
    let limit := max 1 maxRecords
    let t := (empty maxRecords).addAllWith hash given
    let added := addedWith hash (empty maxRecords) given
    Chain hash given added ∧
      t.records = added.drop (given.length - limit) ∧
      t.length = min given.length limit ∧
      t.evicted = given.length - t.length ∧
      t.head = added.getLast?.bind Record.hash ∧
      t.limit = limit ∧
      t.verifyWith hash = true := by
  intro limit t added
  have hholds : Holds hash added t := holds_addAll (holds_empty maxRecords) given
  have hgiven : List.Forall₂ Supplied given added := forall₂_supplied (empty maxRecords) given
  have hlength : added.length = given.length := hgiven.length_eq.symm
  have hlimit : t.limit = limit := limit_addAllWith (empty maxRecords) given
  have hkept : t.length = min given.length limit := by
    rw [← hlength, ← hlimit]
    exact length_records hholds
  refine ⟨chain_of_linked hash hgiven hholds.linked, ?_, hkept, ?_, ?_, hlimit,
    verifyWith_of_holds hholds⟩
  · rw [← hlength, ← hlimit]
    exact hholds.records_eq
  · rw [hkept, hholds.evicted_eq, hlength, hlimit]
    omega
  · rw [hholds.head_eq, tip]
    cases added.getLast? <;> rfl

end LossPrevention.Audit.Trail
