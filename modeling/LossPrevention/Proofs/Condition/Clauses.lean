import LossPrevention.Proofs.Condition.Spec
import LossPrevention.Proofs.Document.Occurrences

/-!
Which clause of a record becomes the condition. A record may carry several of the keys `all`, `any`,
`not` and `field`. Main statement: at every depth, the record is read as the first of its clauses
that makes sense on its own, with all that is in it, and as nothing if none of them does.
-/

namespace LossPrevention.Condition.Spec

open Document
open Json (Value Number)

inductive Clause where
  | all
  | any
  | not
  | field
  deriving DecidableEq

namespace Clause

def key : Clause → String
  | all => "all"
  | any => "any"
  | not => "not"
  | field => "field"

/-- In which turn a clause is looked for. -/
def turn : Clause → Nat
  | all => 0
  | any => 1
  | not => 2
  | field => 3

end Clause

/-- Something is written under the clause's key. -/
def Carries (d : Document) (c : Clause) : Prop := found c.key d ≠ []

/-- The condition says what is under the clause's key, with everything that is in it. -/
inductive Represents (d : Document) : Clause → Spec → Prop
  | all {items : List Document} {children : List Spec} (h : found "all" d = [.list items])
      (hchildren : List.Forall₂ (fun e s => ofDocument? e = some s) items children) :
      Represents d .all (.all children)
  | any {items : List Document} {children : List Spec} (h : found "any" d = [.list items])
      (hchildren : List.Forall₂ (fun e s => ofDocument? e = some s) items children) :
      Represents d .any (.any children)
  | not {e : Document} {child : Spec} (h : found "not" d = [e])
      (hchild : ofDocument? e = some child) : Represents d .not (.not child)
  | field {field operator : String} {value : Option Value} (h : found "field" d = [.text field])
      (hoperator : found "operator" d = [] ∧ operator = defaultOperator ∨
        found "operator" d = [.text operator])
      (hvalue : (found "value" d = [] ∨ found "value" d = [.null]) ∧ value = none ∨
        ∃ e v, found "value" d = [e] ∧ e ≠ .null ∧ e.toValue? = some v ∧ value = some v) :
      Represents d .field (.leaf field operator value)

variable {P : Number → Prop} {d e : Document} {s t : Spec} {c c' : Clause}

theorem Represents.carries (h : Represents d c s) : Carries d c := by
  cases h with
  | all h | any h | not h | field h =>
      rw [Carries, Clause.key, h]
      exact List.cons_ne_nil _ _

/-! ### One clause -/

/-- The condition that one clause of a document comes to. -/
def ofClause? (d : Document) : Clause → Option Spec
  | .all => (childrenBy ofDocument? "all" d).map .all
  | .any => (childrenBy ofDocument? "any" d).map .any
  | .not => ((d.under? "not").bind ofDocument?).map .not
  | .field => readLeaf? d

theorem mapM_eq_some_iff {ds : List Document} {ss : List Spec} : ds.mapM ofDocument? = some ss ↔
    List.Forall₂ (fun e s => ofDocument? e = some s) ds ss := by
  induction ds generalizing ss with
  | nil =>
      rw [List.mapM_nil, List.forall₂_nil_left_iff, eq_comm]
      exact Option.some_inj
  | cons d ds ih =>
      rw [List.mapM_cons, List.forall₂_cons_left_iff]
      constructor
      · intro h
        obtain ⟨s, hs, h⟩ := Option.bind_eq_some_iff.1 h
        obtain ⟨ss, hss, h⟩ := Option.bind_eq_some_iff.1 h
        cases h
        exact ⟨s, ss, hs, ih.1 hss, rfl⟩
      · rintro ⟨s, ss, hs, hss, rfl⟩
        rw [hs, ih.2 hss]
        rfl

theorem childrenBy_eq_some_iff (hstrict : d.Strict P) {key : String} {children : List Spec} :
    childrenBy ofDocument? key d = some children ↔
      ∃ items, found key d = [.list items] ∧
        List.Forall₂ (fun e s => ofDocument? e = some s) items children := by
  simp only [← under?_eq_some_iff hstrict, ← mapM_eq_some_iff]
  rw [childrenBy]
  constructor
  · intro h
    split at h
    · rename_i items hitems
      exact ⟨items, hitems, h⟩
    · cases h
  · rintro ⟨items, hitems, h⟩
    rw [hitems]
    exact h

section Slot

variable {slot : Option Document} (hslot : ∀ e ∈ slot, e.Strict P)
include hslot

theorem bind_asText?_eq_some_iff {field : String} :
    slot.bind asText? = some field ↔ slot.toList = [.text field] := by
  cases slot with
  | none => simp
  | some e =>
      rw [Option.bind_some, asText?_eq_some_iff (hslot e rfl), Option.toList_some,
        List.singleton_inj]

theorem orElse?_asText?_eq_some_iff {operator : String} :
    orElse? defaultOperator asText? slot = some operator ↔
      slot.toList = [] ∧ operator = defaultOperator ∨ slot.toList = [.text operator] := by
  cases slot with
  | none => simp [orElse?, eq_comm]
  | some e => simp [orElse?, asText?_eq_some_iff (hslot e rfl)]

theorem optional?_toValue?_eq_some_iff {value : Option Value} :
    optional? toValue? slot = some value ↔
      (slot.toList = [] ∨ slot.toList = [.null]) ∧ value = none ∨
        ∃ e v, slot.toList = [e] ∧ e ≠ .null ∧ e.toValue? = some v ∧ value = some v := by
  cases slot with
  | none => simp [optional?, orElse?, eq_comm]
  | some e =>
      by_cases hnull : e = .null
      · subst hnull
        simp [optional?, orElse?, asOption?, eq_comm]
      · have hread : optional? toValue? (some e) = e.toValue?.map some :=
          asOption?_of_strict (hslot e rfl) hnull
        rw [hread, Option.map_eq_some_iff]
        simp [hnull, eq_comm]

end Slot

theorem readLeaf?_eq_some_iff (hstrict : d.Strict P) :
    readLeaf? d = some s ↔ Represents d .field s := by
  cases d with
  | record entries =>
      have hslots {filled : List (Option Document)} :
          entries? [["field"], ["operator"], ["value"]] entries = some filled ↔ _ :=
        @entries?_eq_some_iff P ["field", "operator", "value"] entries filled (by decide) hstrict
      have hinside {key : String} {o : Option Document}
          (h : o.toList = found key (.record entries)) : ∀ e ∈ o, e.Strict P := fun e he => by
        have hmem : e ∈ found key (.record entries) := h ▸ Option.mem_toList.2 he
        exact strict_of_mem_found hstrict hmem
      rw [readLeaf?, keyed?]
      constructor
      · intro h
        obtain ⟨filled, hfilled, h⟩ := Option.bind_eq_some_iff.1 h
        obtain ⟨slot, rfl, hslot⟩ := hslots.1 hfilled
        simp only [List.forall_mem_cons] at hslot
        obtain ⟨hfield, hoperator, hvalue, -⟩ := hslot
        obtain ⟨field, hf, h⟩ := Option.bind_eq_some_iff.1 h
        obtain ⟨operator, ho, h⟩ := Option.bind_eq_some_iff.1 h
        obtain ⟨value, hv, h⟩ := Option.bind_eq_some_iff.1 h
        cases h
        rw [bind_asText?_eq_some_iff (hinside hfield), hfield] at hf
        rw [orElse?_asText?_eq_some_iff (hinside hoperator), hoperator] at ho
        rw [optional?_toValue?_eq_some_iff (hinside hvalue), hvalue] at hv
        exact .field hf ho hv
      · intro h
        cases h with
        | @field field operator value hf ho hv =>
            obtain ⟨o, hoperator⟩ : ∃ o, Option.toList o = found "operator" (.record entries) := by
              rcases ho with ⟨hnone, -⟩ | hsome
              · exact ⟨none, hnone.symm⟩
              · exact ⟨some _, hsome.symm⟩
            obtain ⟨v, hvalue⟩ : ∃ v, Option.toList v = found "value" (.record entries) := by
              rcases hv with ⟨hnone | hnull, -⟩ | ⟨e, -, hsome, -⟩
              · exact ⟨none, hnone.symm⟩
              · exact ⟨some _, hnull.symm⟩
              · exact ⟨some _, hsome.symm⟩
            have hfilled : entries? [["field"], ["operator"], ["value"]] entries =
                some [some (.text field), o, v] := by
              refine hslots.2 ⟨fun key => if key = "field" then some (.text field)
                else if key = "operator" then o else v, rfl, ?_⟩
              simp only [List.forall_mem_cons]
              exact ⟨hf.symm, hoperator, hvalue, List.forall_mem_nil _⟩
            rw [← hoperator, ← orElse?_asText?_eq_some_iff (hinside hoperator)] at ho
            rw [← hvalue, ← optional?_toValue?_eq_some_iff (hinside hvalue)] at hv
            simp only [hfilled, Option.bind_eq_bind, Option.bind_some, asText?, ho, hv]
  | _ => exact iff_of_false (by simp [readLeaf?, keyed?]) fun h => h.carries rfl

theorem ofClause?_eq_some_iff (hstrict : d.Strict P) :
    ofClause? d c = some s ↔ Represents d c s := by
  cases c with
  | all =>
      rw [ofClause?, Option.map_eq_some_iff]
      simp only [childrenBy_eq_some_iff hstrict]
      constructor
      · rintro ⟨children, ⟨items, h, hchildren⟩, rfl⟩
        exact .all h hchildren
      · intro hd
        cases hd with
        | all h hchildren => exact ⟨_, ⟨_, h, hchildren⟩, rfl⟩
  | any =>
      rw [ofClause?, Option.map_eq_some_iff]
      simp only [childrenBy_eq_some_iff hstrict]
      constructor
      · rintro ⟨children, ⟨items, h, hchildren⟩, rfl⟩
        exact .any h hchildren
      · intro hd
        cases hd with
        | any h hchildren => exact ⟨_, ⟨_, h, hchildren⟩, rfl⟩
  | not =>
      rw [ofClause?, Option.map_eq_some_iff]
      simp only [Option.bind_eq_some_iff, under?_eq_some_iff hstrict]
      constructor
      · rintro ⟨child, ⟨e, h, hchild⟩, rfl⟩
        exact .not h hchild
      · intro hd
        cases hd with
        | not h hchild => exact ⟨_, ⟨_, h, hchild⟩, rfl⟩
  | field => exact readLeaf?_eq_some_iff hstrict

/-! ### The first clause -/

def Clause.ordered : List Clause := [.all, .any, .not, .field]

theorem ofDocument?_eq_findSome? (d : Document) :
    ofDocument? d = Clause.ordered.findSome? (ofClause? d) := by
  rw [ofDocument?_eq, readBy]
  simp only [Clause.ordered, List.findSome?_cons, List.findSome?_nil, ofClause?]
  cases (childrenBy ofDocument? "all" d).map all <;>
    cases (childrenBy ofDocument? "any" d).map any <;>
      cases ((d.under? "not").bind ofDocument?).map not <;>
        cases readLeaf? d <;> rfl

theorem ofDocument?_eq_none_iff (hstrict : d.Strict P) :
    ofDocument? d = none ↔ ∀ c s, ¬ Represents d c s := by
  rw [ofDocument?_eq_findSome?, List.findSome?_eq_none_iff]
  constructor
  · intro h c s hs
    have hmem : c ∈ Clause.ordered := by cases c <;> decide
    exact Option.some_ne_none _ (((ofClause?_eq_some_iff hstrict).2 hs).symm.trans (h c hmem))
  · intro h c _
    exact Option.eq_none_iff_forall_ne_some.2 fun s hs =>
      h c s ((ofClause?_eq_some_iff hstrict).1 hs)

theorem exists_first_clause (hstrict : d.Strict P) (h : ofDocument? d = some s) :
    ∃ c, Represents d c s ∧ ∀ c' s', Represents d c' s' → c.turn ≤ c'.turn := by
  have hordered : Clause.ordered.Pairwise (fun c c' => c.turn < c'.turn) := by decide
  rw [ofDocument?_eq_findSome?] at h
  obtain ⟨before, c, after, hsplit, hread, hbefore⟩ := List.findSome?_eq_some_iff.1 h
  refine ⟨c, (ofClause?_eq_some_iff hstrict).1 hread, fun c' s' hc' => ?_⟩
  have hread' := (ofClause?_eq_some_iff hstrict).2 hc'
  have hmem : c' ∈ before ++ c :: after := hsplit ▸ by cases c' <;> decide
  rw [hsplit] at hordered
  rcases List.mem_append.1 hmem with hmem | hmem
  · exact absurd (hread'.symm.trans (hbefore c' hmem)) (Option.some_ne_none _)
  · rcases List.mem_cons.1 hmem with rfl | hmem
    · exact Nat.le_refl _
    · exact Nat.le_of_lt ((List.pairwise_cons.1 (List.pairwise_append.1 hordered).2.1).1 c' hmem)

/-! ### At every depth -/

/-- A document within `d` that is read as a condition within `s`. -/
inductive Node (d : Document) (s : Spec) : Document → Spec → Prop
  | root : Node d s d s
  | all {e f : Document} {items : List Document} {children : List Spec} {t : Spec}
      (h : Node d s e (.all children)) (hitems : found "all" e = [.list items])
      (hpair : (f, t) ∈ items.zip children) : Node d s f t
  | any {e f : Document} {items : List Document} {children : List Spec} {t : Spec}
      (h : Node d s e (.any children)) (hitems : found "any" e = [.list items])
      (hpair : (f, t) ∈ items.zip children) : Node d s f t
  | not {e f : Document} {t : Spec} (h : Node d s e (.not t)) (hinner : found "not" e = [f]) :
      Node d s f t

theorem strict_of_zip {key : String} {items : List Document} {children : List Spec}
    (hstrict : d.Strict P) (h : found key d = [.list items]) (hpair : (e, t) ∈ items.zip children) :
    e.Strict P := by
  have hitems : (Document.list items).Strict P :=
    strict_of_mem_found hstrict (h.symm ▸ List.mem_singleton.2 rfl)
  exact strictItems_iff.1 hitems e (List.of_mem_zip hpair).1

theorem Node.read (hnode : Node d s e t) (hstrict : d.Strict P) (h : ofDocument? d = some s) :
    e.Strict P ∧ ofDocument? e = some t := by
  induction hnode with
  | root => exact ⟨hstrict, h⟩
  | all _ hitems hpair ih =>
      obtain ⟨hinner, hread⟩ := ih
      obtain ⟨c, hc, -⟩ := exists_first_clause hinner hread
      cases hc with
      | all hitems' hchildren =>
          cases hitems.symm.trans hitems'
          exact ⟨strict_of_zip hinner hitems hpair, (List.forall₂_iff_zip.1 hchildren).2 hpair⟩
  | any _ hitems hpair ih =>
      obtain ⟨hinner, hread⟩ := ih
      obtain ⟨c, hc, -⟩ := exists_first_clause hinner hread
      cases hc with
      | any hitems' hchildren =>
          cases hitems.symm.trans hitems'
          exact ⟨strict_of_zip hinner hitems hpair, (List.forall₂_iff_zip.1 hchildren).2 hpair⟩
  | not _ hinner ih =>
      obtain ⟨houter, hread⟩ := ih
      obtain ⟨c, hc, -⟩ := exists_first_clause houter hread
      cases hc with
      | not hinner' hchild =>
          cases hinner.symm.trans hinner'
          exact ⟨strict_of_mem_found houter (hinner.symm ▸ List.mem_singleton.2 rfl), hchild⟩

/-- The condition is what the first clause of the document comes to. -/
structure FirstClause (e : Document) (t : Spec) : Prop where
  read : ofDocument? e = some t
  first : ∃ c, Represents e c t ∧ ∀ c' t', Represents e c' t' → c.turn ≤ c'.turn
  alone : ∀ c, (∀ c', Carries e c' → c' = c) → Represents e c t

theorem firstClause_of_read (hstrict : e.Strict P) (h : ofDocument? e = some t) :
    FirstClause e t where
  read := h
  first := exists_first_clause hstrict h
  alone := fun c honly => by
    obtain ⟨c', hc', -⟩ := exists_first_clause hstrict h
    exact honly c' hc'.carries ▸ hc'

/-- Of the clauses that a document carries, at any depth, the first one that makes sense is read,
and the document is refused only if none does. -/
theorem reads_first_clause (hstrict : d.Strict P) :
    (ofDocument? d = none ↔ ∀ c s, ¬ Represents d c s) ∧
      ∀ s, ofDocument? d = some s → ∀ e t, Node d s e t → FirstClause e t := by
  refine ⟨ofDocument?_eq_none_iff hstrict, fun s h e t hnode => ?_⟩
  obtain ⟨hinner, hread⟩ := hnode.read hstrict h
  exact firstClause_of_read hinner hread

/-- An object with a clause that makes no sense and one that does. -/
def fallingBack : Value := .object [("any", .text "x"), ("field", .text "a")]

/-- An object with two clauses that make sense, and another object inside the first one. -/
def mixed : Value := .object [("all", .list [fallingBack]), ("any", .list [])]

theorem read_mixed : ofDocument? (ofValue mixed) = some (.all [.leaf "a" "==" none]) := rfl

theorem reads_first_clause_mixed :
    (ofValue mixed).Strict (fun _ => True) ∧
      ofDocument? (ofValue mixed) = some (.all [.leaf "a" "==" none]) ∧
      FirstClause (ofValue mixed) (.all [.leaf "a" "==" none]) ∧
      FirstClause (ofValue fallingBack) (.leaf "a" "==" none) := by
  have hstrict := strict_ofValue mixed
  have hfirst := (reads_first_clause hstrict).2 _ read_mixed
  exact ⟨hstrict, read_mixed, hfirst _ _ .root,
    hfirst _ _ (.all .root rfl (List.mem_singleton.2 rfl))⟩

/-- The second clause of the outer object is dropped, and so is the first one of the inner object,
which makes no sense. -/
theorem drops_clauses :
    ofDocument? (ofValue mixed) = some (.all [.leaf "a" "==" none]) ∧
      (Carries (ofValue mixed) .any ∧
        ¬ Represents (ofValue mixed) .any (.all [.leaf "a" "==" none])) ∧
      Node (ofValue mixed) (.all [.leaf "a" "==" none]) (ofValue fallingBack)
        (.leaf "a" "==" none) ∧
      Carries (ofValue fallingBack) .any ∧
        ¬ Represents (ofValue fallingBack) .any (.leaf "a" "==" none) := by
  refine ⟨read_mixed, ⟨List.cons_ne_nil _ _, fun h => ?_⟩,
    .all .root rfl (List.mem_singleton.2 rfl), List.cons_ne_nil _ _, fun h => ?_⟩
  · cases h
  · cases h

end LossPrevention.Condition.Spec
