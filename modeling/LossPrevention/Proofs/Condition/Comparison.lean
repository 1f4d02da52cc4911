import LossPrevention.Condition.Basic
import LossPrevention.Proofs.Pattern.Reach
import LossPrevention.Proofs.Pattern.Reading

/-!
Single comparisons. `Offends` says of a comparison as it is written why it cannot be used, and
`Comparison.Holds` what one that can be used says of an event, operator by operator and without
looking at what it is compiled to. Both are what compiling and testing it comes to.
-/

namespace LossPrevention.Condition

open Json (Number Value)

namespace Operator

def aliases : Operator → List String
  | eq => ["equals"]
  | ne => ["not_equals"]
  | gt => ["greater_than"]
  | ge => ["greater_equal"]
  | lt => ["less_than"]
  | le => ["less_equal"]
  | notContains => ["not_contains"]
  | notIn => ["not_in"]
  | absent => ["not exists"]
  | contains | isIn | regex | present | luhn => []

/-- The text is a name of the operator, with white space around it. -/
def Names (op : Operator) (text : String) : Prop := Text.trim text ∈ op.name :: op.aliases

theorem ofName?_eq_some_iff {op : Operator} {name : String} :
    ofName? name = some op ↔ name ∈ op.name :: op.aliases := by
  constructor
  · intro h
    unfold ofName? at h
    split at h <;> cases h <;> simp [Operator.name, aliases]
  · intro h
    cases op <;> simp only [Operator.name, aliases, List.mem_cons, List.not_mem_nil, or_false] at h
    all_goals rcases h with rfl | rfl <;> rfl

theorem parse?_eq_some_iff {op : Operator} {text : String} :
    parse? text = some op ↔ op.Names text := ofName?_eq_some_iff

theorem parse?_eq_none_iff {text : String} :
    parse? text = none ↔ ∀ op : Operator, ¬ op.Names text := by
  rw [Option.eq_none_iff_forall_ne_some]
  exact forall_congr' fun op => not_congr parse?_eq_some_iff

theorem Names.eq {op op' : Operator} {text : String} (h : op.Names text) (h' : op'.Names text) :
    op = op' :=
  Option.some.inj ((parse?_eq_some_iff.2 h).symm.trans (parse?_eq_some_iff.2 h'))

end Operator

/-- A leaf as it is written. -/
structure Comparison where
  field : String
  operator : String
  literal : Option Value

namespace Comparison

/-- The field without the white space around it. -/
def path (c : Comparison) : List Char := Text.trimChars c.field.toList

/-- What the dots divide the field into. -/
def segments (c : Comparison) : List (List Char) := Text.pieces '.' c.path

def HasPath (c : Comparison) : Prop := c.path ≠ [] ∧ [] ∉ c.segments

structure Usable (c : Comparison) : Prop where
  operator : ∃ op : Operator, op.Names c.operator
  field : c.path ≠ []
  segments : [] ∉ c.segments
  value : Operator.contains.Names c.operator ∨ Operator.notContains.Names c.operator →
    c.literal ≠ none
  pattern : Operator.regex.Names c.operator →
    ∃ source p, c.literal = some (.text source) ∧ Pattern.ofText source = .ok p

/-- Why a comparison cannot be used: the first thing that is wrong with its operator, its field or
its literal, in this order. -/
inductive Offends (c : Comparison) : Fault → Prop
  | operator (h : ∀ op : Operator, ¬ op.Names c.operator) :
      Offends c (.unknownOperator c.operator c.field)
  | field {op : Operator} (ho : op.Names c.operator) (h : c.path = []) : Offends c (.path .empty)
  | segment {op : Operator} (ho : op.Names c.operator) (hp : c.path ≠ []) (h : [] ∈ c.segments) :
      Offends c (.path (.emptySegment (String.ofList c.path)))
  | value {op : Operator} (ho : op.Names c.operator) (hp : c.HasPath)
      (hop : op = .contains ∨ op = .notContains) (h : c.literal = none) :
      Offends c (.valueRequired op)
  | noPattern (ho : Operator.regex.Names c.operator) (hp : c.HasPath)
      (h : ∀ source, c.literal ≠ some (.text source)) : Offends c .patternRequired
  | badPattern {source : String} {fault : Pattern.Fault} (ho : Operator.regex.Names c.operator)
      (hp : c.HasPath) (hl : c.literal = some (.text source))
      (h : Pattern.ofText source = .error fault) : Offends c (.badPattern source fault)

def value? (c : Comparison) (event : Value) : Option Value :=
  FieldPath.resolveAt (c.segments.map String.ofList) event

end Comparison

/-! ### What the operators ask -/

/-- Two numbers that lie to each other as the relation says. -/
def Related (R : Int → Int → Prop) (v : Value) (literal : Option Value) : Prop :=
  ∃ m n, v = .number m ∧ literal = some (.number n) ∧ R m.rank n.rank

/-- Whether one value can be looked for in the other: anything in a list, a text in a text. -/
def Searchable : Value → Value → Prop
  | .list _, _ => True
  | .text _, .text _ => True
  | _, _ => False

/-- A member of a list, or a part of a text. -/
def Holding : Value → Value → Prop
  | .list items, needle => ∃ item ∈ items, item.equal needle = true
  | .text s, .text n => n.toList <:+: s.toList
  | _, _ => False

def Operator.Holds (op : Operator) (literal : Option Value) : Option Value → Prop
  | none => op = absent
  | some v =>
      match op with
      | eq => v.equal (literal.getD .null) = true
      | ne => v.equal (literal.getD .null) = false
      | gt => Related (· > ·) v literal
      | ge => Related (· ≥ ·) v literal
      | lt => Related (· < ·) v literal
      | le => Related (· ≤ ·) v literal
      | contains => ∃ needle, literal = some needle ∧ Searchable v needle ∧ Holding v needle
      | notContains => ∃ needle, literal = some needle ∧ Searchable v needle ∧ ¬ Holding v needle
      | isIn => ∃ options, literal = some (.list options) ∧ ∃ o ∈ options, v.equal o = true
      | notIn => ∃ options, literal = some (.list options) ∧ ∀ o ∈ options, v.equal o = false
      | regex => ∃ source p, literal = some (.text source) ∧ Pattern.ofText source = .ok p ∧
          p.Occurs (Predicate.subject v)
      | present => True
      | absent => False
      | luhn =>
          (∃ s, v = .text s ∧ Classifier.Luhn.valid s.toList = true) ∨
            ∃ n, n < Nat.pow 2 64 ∧ v = .ofNat n ∧ Classifier.Luhn.valid (Nat.toDigits 10 n) = true

def Comparison.Holds (c : Comparison) (event : Value) : Prop :=
  ∃ op : Operator, op.Names c.operator ∧ op.Holds c.literal (c.value? event)

/-! ### Testing -/

theorem isPart_iff (needle text : List Char) :
    Predicate.isPart needle text = true ↔ needle <:+: text := by
  induction text with
  | nil => simp [Predicate.isPart]
  | cons c cs ih =>
      rw [Predicate.isPart, Bool.or_eq_true, List.isPrefixOf_iff_prefix, ih, List.infix_cons_iff]

/-- A search is decided just where it can be made. -/
theorem holds?_eq_some_iff {v needle : Value} {found : Bool} :
    Predicate.holds? v needle = some found ↔
      Searchable v needle ∧ (found = true ↔ Holding v needle) := by
  cases v with
  | list items =>
      rw [Predicate.holds?, Option.some.injEq, Holding, ← List.any_eq_true, Searchable, true_and,
        Bool.eq_iff_iff]
      exact iff_comm
  | text s =>
      cases needle with
      | text n =>
          rw [Predicate.holds?, Value.asText?, Option.map_some, Option.some.injEq, Holding,
            ← isPart_iff, Searchable, true_and, Bool.eq_iff_iff]
          exact iff_comm
      | _ => simp [Predicate.holds?, Value.asText?, Searchable]
  | _ => simp [Predicate.holds?, Searchable]

theorem compares_iff {test : Int → Bool} {v : Value} :
    Predicate.compares test v = true ↔ ∃ m, v = .number m ∧ test m.rank = true := by
  cases v <;> simp [Predicate.compares, Value.asNumber?]

theorem checksumHolds_iff {v : Value} :
    Predicate.checksumHolds v = true ↔
      (∃ s, v = .text s ∧ Classifier.Luhn.valid s.toList = true) ∨
        ∃ n, n < Nat.pow 2 64 ∧ v = .ofNat n ∧
          Classifier.Luhn.valid (Nat.toDigits 10 n) = true := by
  cases v with
  | number m =>
      cases m with
      | int n =>
          rw [Predicate.checksumHolds, Json.Number.toWord?]
          generalize Nat.pow 2 64 = bound
          constructor
          · intro h
            split at h
            · rename_i hn
              refine .inr ⟨n.toNat, by omega, ?_, h⟩
              rw [Value.ofNat, Int.toNat_of_nonneg hn.1]
            · cases h
          · rintro (⟨s, hs, -⟩ | ⟨k, hk, hv, hvalid⟩)
            · cases hs
            · cases hv
              rw [if_pos (by omega)]
              exact hvalid
      | float x => simp [Predicate.checksumHolds, Json.Number.toWord?, Value.ofNat]
  | _ => simp [Predicate.checksumHolds, Value.ofNat]

/-- A demand that needs a literal of some kind is met only if the literal is of that kind. -/
theorem testValue_fitting {α : Type} {op : Operator} {fit : Value → Option α}
    {make : α → Predicate} {P : α → Value → Prop}
    (hP : ∀ a v, (make a).testValue v = true ↔ P a v) (literal : Option Value) (v : Value) :
    (((literal.bind fit).map make).getD (.never op)).testValue v = true ↔
      ∃ w a, literal = some w ∧ fit w = some a ∧ P a v := by
  cases hfit : literal.bind fit with
  | some a =>
      obtain ⟨w, rfl, hw⟩ := Option.bind_eq_some_iff.1 hfit
      rw [Option.map_some, Option.getD_some, hP]
      constructor
      · exact fun h => ⟨w, a, rfl, hw, h⟩
      · rintro ⟨w', a', hw', ha', h⟩
        cases hw'
        cases hw.symm.trans ha'
        exact h
  | none =>
      constructor
      · exact nofun
      · rintro ⟨w, a, rfl, ha, -⟩
        cases hfit.symm.trans ha

theorem asNumber?_eq_some_iff {v : Value} {n : Number} : v.asNumber? = some n ↔ v = .number n := by
  cases v <;> simp [Value.asNumber?]

theorem asList?_eq_some_iff {v : Value} {items : List Value} :
    v.asList? = some items ↔ v = .list items := by
  cases v <;> simp [Value.asList?]

theorem testValue_bounded {op : Operator} {make : Number → Predicate} {test : Int → Int → Bool}
    {R : Int → Int → Prop}
    (hmake : ∀ n v, (make n).testValue v = Predicate.compares (test n.rank) v)
    (hR : ∀ m n, test n m = true ↔ R m n) (literal : Option Value) (v : Value) :
    (Predicate.bounded op make literal).testValue v = true ↔ Related R v literal := by
  have hP : ∀ n v, (make n).testValue v = true ↔ ∃ m, v = .number m ∧ R m.rank n.rank := by
    intro n v
    simp only [hmake, compares_iff, hR]
  have hbounded : Predicate.bounded op make literal =
      ((literal.bind Value.asNumber?).map make).getD (.never op) := by
    unfold Predicate.bounded
    cases literal.bind Value.asNumber? <;> rfl
  rw [hbounded, testValue_fitting hP]
  simp only [asNumber?_eq_some_iff]
  constructor
  · rintro ⟨-, n, hl, rfl, m, hm, h⟩
    exact ⟨m, n, hm, hl, h⟩
  · rintro ⟨m, n, hm, hl, h⟩
    exact ⟨_, n, hl, rfl, m, hm, h⟩

theorem testValue_listed {op : Operator} {make : List Value → Predicate}
    {P : List Value → Value → Prop}
    (hP : ∀ options v, (make options).testValue v = true ↔ P options v)
    (literal : Option Value) (v : Value) :
    (Predicate.listed op make literal).testValue v = true ↔
      ∃ options, literal = some (.list options) ∧ P options v := by
  have hlisted : Predicate.listed op make literal =
      ((literal.bind Value.asList?).map make).getD (.never op) := by
    unfold Predicate.listed
    cases literal.bind Value.asList? <;> rfl
  rw [hlisted, testValue_fitting hP]
  simp only [asList?_eq_some_iff]
  constructor
  · rintro ⟨-, options, hl, rfl, h⟩
    exact ⟨options, hl, h⟩
  · rintro ⟨options, hl, h⟩
    exact ⟨_, options, hl, rfl, h⟩

theorem compile_regex_text (source : String) :
    Predicate.compile .regex (some (.text source)) =
      match Pattern.ofText source with
      | .ok pattern => .ok (.regex pattern)
      | .error fault => .error (.badPattern source fault) := rfl

theorem compile_regex_of_no_text {literal : Option Value}
    (h : ∀ source, literal ≠ some (.text source)) :
    Predicate.compile .regex literal = .error .patternRequired := by
  cases literal with
  | none => rfl
  | some v =>
      cases v with
      | text source => exact absurd rfl (h source)
      | _ => rfl

theorem compile_regex_eq_ok_iff {literal : Option Value} {p : Predicate} :
    Predicate.compile .regex literal = .ok p ↔
      ∃ source pattern, literal = some (.text source) ∧ Pattern.ofText source = .ok pattern ∧
        p = .regex pattern := by
  constructor
  · intro h
    by_cases htext : ∃ source, literal = some (.text source)
    · obtain ⟨source, rfl⟩ := htext
      rw [compile_regex_text] at h
      split at h
      · rename_i pattern hp
        cases h
        exact ⟨source, pattern, rfl, hp, rfl⟩
      · cases h
    · rw [compile_regex_of_no_text (fun source hs => htext ⟨source, hs⟩)] at h
      cases h
  · rintro ⟨source, pattern, rfl, hp, rfl⟩
    rw [compile_regex_text, hp]

theorem testValue_contains {v needle : Value} :
    (Predicate.contains needle).testValue v = true ↔ Searchable v needle ∧ Holding v needle := by
  have hgetD : (Predicate.contains needle).testValue v = true ↔
      Predicate.holds? v needle = some true := by
    rw [Predicate.testValue]
    cases Predicate.holds? v needle <;> simp
  rw [hgetD, holds?_eq_some_iff]
  simp

theorem testValue_notContains {v needle : Value} :
    (Predicate.notContains needle).testValue v = true ↔
      Searchable v needle ∧ ¬ Holding v needle := by
  have hgetD : (Predicate.notContains needle).testValue v = true ↔
      Predicate.holds? v needle = some false := by
    rw [Predicate.testValue]
    cases Predicate.holds? v needle <;> simp
  rw [hgetD, holds?_eq_some_iff]
  simp

/-- Only the demand to be absent is met by an absent field. -/
theorem test_none_iff {op : Operator} {literal : Option Value} {p : Predicate}
    (h : Predicate.compile op literal = .ok p) : p.test none = true ↔ op = .absent := by
  have hbounded (make : Number → Predicate) (hmake : ∀ n, make n ≠ .absent) :
      Predicate.bounded op make literal ≠ .absent := by
    unfold Predicate.bounded
    split
    · exact hmake _
    · exact nofun
  have hlisted (make : List Value → Predicate) (hmake : ∀ options, make options ≠ .absent) :
      Predicate.listed op make literal ≠ .absent := by
    unfold Predicate.listed
    split
    · exact hmake _
    · exact nofun
  have htest : p.test none = true ↔ p = .absent := by cases p <;> simp [Predicate.test]
  have hne (hp : p ≠ .absent) (hop : op ≠ .absent) : p = .absent ↔ op = .absent :=
    iff_of_false hp hop
  rw [htest]
  cases op with
  | gt | ge | lt | le => cases h; exact hne (hbounded _ nofun) nofun
  | isIn | notIn => cases h; exact hne (hlisted _ nofun) nofun
  | contains | notContains =>
      cases literal <;> cases h
      exact hne nofun nofun
  | regex =>
      obtain ⟨_, _, _, _, rfl⟩ := compile_regex_eq_ok_iff.1 h
      exact hne nofun nofun
  | absent => cases h; simp
  | eq | ne | present | luhn => cases h; exact hne nofun nofun

theorem test_some_iff {op : Operator} {literal : Option Value} {p : Predicate}
    (h : Predicate.compile op literal = .ok p) (v : Value) :
    p.test (some v) = true ↔ op.Holds literal (some v) := by
  cases op with
  | eq => cases h; exact Iff.rfl
  | ne => cases h; exact Bool.not_eq_true' _ ▸ Iff.rfl
  | gt | ge | lt | le =>
      cases h
      exact testValue_bounded (fun _ _ => rfl) (fun m n => decide_eq_true_iff) literal v
  | contains =>
      cases literal with
      | none => cases h
      | some needle =>
          cases h
          refine testValue_contains.trans ⟨fun h => ⟨needle, rfl, h⟩, ?_⟩
          rintro ⟨_, ⟨⟩, h⟩
          exact h
  | notContains =>
      cases literal with
      | none => cases h
      | some needle =>
          cases h
          refine testValue_notContains.trans ⟨fun h => ⟨needle, rfl, h⟩, ?_⟩
          rintro ⟨_, ⟨⟩, h⟩
          exact h
  | isIn =>
      cases h
      have hP (options : List Value) (v : Value) : (Predicate.isIn options).testValue v = true ↔
          ∃ o ∈ options, v.equal o = true := List.any_eq_true
      exact testValue_listed hP literal v
  | notIn =>
      cases h
      have hP (options : List Value) (v : Value) : (Predicate.notIn options).testValue v = true ↔
          ∀ o ∈ options, v.equal o = false := by simp [Predicate.testValue]
      exact testValue_listed hP literal v
  | regex =>
      obtain ⟨source, pattern, rfl, hp, rfl⟩ := compile_regex_eq_ok_iff.1 h
      have hmatch : (Predicate.regex pattern).test (some v) = true ↔
          pattern.Occurs (Predicate.subject v) :=
        Pattern.isMatch_iff_occurs (Pattern.proper_of_ofText hp) _
      rw [hmatch]
      constructor
      · exact fun h => ⟨source, pattern, rfl, hp, h⟩
      · rintro ⟨_, _, ⟨⟩, hp', h⟩
        cases hp.symm.trans hp'
        exact h
  | present => cases h; simp [Predicate.test, Predicate.testValue, Operator.Holds]
  | absent => cases h; simp [Predicate.test, Predicate.testValue, Operator.Holds]
  | luhn => cases h; exact checksumHolds_iff

/-! ### Compiling -/

theorem map_eq_ok_iff {ε α β : Type} {f : α → β} {x : Except ε α} {b : β} :
    x.map f = .ok b ↔ ∃ a, x = .ok a ∧ f a = b := by
  cases x <;> simp [Except.map]

theorem map_eq_error_iff {ε α β : Type} {f : α → β} {x : Except ε α} {e : ε} :
    x.map f = .error e ↔ x = .error e := by
  cases x <;> simp [Except.map]

theorem exists_compile {op : Operator} {literal : Option Value}
    (hvalue : op = .contains ∨ op = .notContains → literal ≠ none)
    (hpattern : op = .regex →
      ∃ source p, literal = some (.text source) ∧ Pattern.ofText source = .ok p) :
    ∃ p, Predicate.compile op literal = .ok p := by
  cases op with
  | contains =>
      obtain ⟨v, rfl⟩ := Option.ne_none_iff_exists'.1 (hvalue (.inl rfl))
      exact ⟨_, rfl⟩
  | notContains =>
      obtain ⟨v, rfl⟩ := Option.ne_none_iff_exists'.1 (hvalue (.inr rfl))
      exact ⟨_, rfl⟩
  | regex =>
      obtain ⟨source, p, hl, hp⟩ := hpattern rfl
      exact ⟨_, compile_regex_eq_ok_iff.2 ⟨source, p, hl, hp, rfl⟩⟩
  | _ => exact ⟨_, rfl⟩

namespace Comparison

variable {c : Comparison}

/-! #### The field -/

theorem parse_of_blank (h : c.path = []) : FieldPath.parse c.field = .error .empty := by
  have htrimmed : Text.trimChars c.field.toList = [] := h
  rw [FieldPath.parse, htrimmed]
  rfl

theorem parse_of_segments {first : String} {others : List String} (h : c.path ≠ [])
    (hsegments : c.segments.map String.ofList = first :: others) :
    FieldPath.parse c.field =
      if (first :: others).contains "" then .error (.emptySegment (String.ofList c.path))
      else .ok ⟨first, others⟩ := by
  have htrimmed : ¬ (Text.trimChars c.field.toList).isEmpty = true := mt List.isEmpty_iff.1 h
  have hpieces : (Text.pieces '.' (Text.trimChars c.field.toList)).map String.ofList =
      first :: others := hsegments
  rw [FieldPath.parse, if_neg htrimmed, hpieces]
  rfl

theorem exists_segments (c : Comparison) :
    ∃ first others, c.segments.map String.ofList = first :: others ∧
      ((first :: others).contains "" = true ↔ [] ∈ c.segments) := by
  have hempty : "" ∈ c.segments.map String.ofList ↔ [] ∈ c.segments := by
    rw [List.mem_map]
    constructor
    · rintro ⟨s, hs, he⟩
      have hnil : s = [] := by simpa using he
      exact hnil ▸ hs
    · exact fun h => ⟨[], h, rfl⟩
  have hne : c.segments.map String.ofList ≠ [] :=
    mt List.map_eq_nil_iff.1 (Text.pieces_ne_nil _ _)
  obtain ⟨first, others, hsegments⟩ := List.exists_cons_of_ne_nil hne
  exact ⟨first, others, hsegments, List.contains_iff_mem.trans (hsegments ▸ hempty)⟩

theorem parse_of_empty_segment (h : c.path ≠ []) (hs : [] ∈ c.segments) :
    FieldPath.parse c.field = .error (.emptySegment (String.ofList c.path)) := by
  obtain ⟨first, others, hsegments, hempty⟩ := c.exists_segments
  rw [parse_of_segments h hsegments, if_pos (hempty.2 hs)]

theorem parse_of_hasPath (h : c.HasPath) :
    ∃ p, FieldPath.parse c.field = .ok p ∧ p.segments = c.segments.map String.ofList := by
  obtain ⟨first, others, hsegments, hempty⟩ := c.exists_segments
  refine ⟨⟨first, others⟩, ?_, hsegments.symm⟩
  rw [parse_of_segments h.1 hsegments, if_neg (mt hempty.1 h.2)]

/-! #### The leaf -/

theorem compileLeaf_of_parse {op : Operator} {p : FieldPath} (ho : op.Names c.operator)
    (hparse : FieldPath.parse c.field = .ok p) :
    compileLeaf c.field c.operator c.literal =
      (Predicate.compile op c.literal).map (leaf p) := by
  rw [compileLeaf, Operator.parse?_eq_some_iff.2 ho]
  simp only [hparse]
  cases Predicate.compile op c.literal <;> rfl

theorem compileLeaf_of_fault {op : Operator} {fault : Fault} (ho : op.Names c.operator)
    (hc : c.HasPath) (h : Predicate.compile op c.literal = .error fault) :
    compileLeaf c.field c.operator c.literal = .error fault := by
  obtain ⟨p, hparse, -⟩ := parse_of_hasPath hc
  rw [compileLeaf_of_parse ho hparse, h]
  rfl

theorem compileLeaf_of_offends {fault : Fault} (h : c.Offends fault) :
    compileLeaf c.field c.operator c.literal = .error fault := by
  cases h with
  | operator h => rw [compileLeaf, Operator.parse?_eq_none_iff.2 h]
  | field ho h =>
      rw [compileLeaf, Operator.parse?_eq_some_iff.2 ho]
      simp only [parse_of_blank h]
  | segment ho h hs =>
      rw [compileLeaf, Operator.parse?_eq_some_iff.2 ho]
      simp only [parse_of_empty_segment h hs]
  | value ho hc hop hl =>
      refine compileLeaf_of_fault ho hc ?_
      rcases hop with rfl | rfl <;> rw [hl] <;> rfl
  | noPattern ho hc hl => exact compileLeaf_of_fault ho hc (compile_regex_of_no_text hl)
  | badPattern ho hc hl hp =>
      refine compileLeaf_of_fault ho hc ?_
      rw [hl, compile_regex_text, hp]

theorem Usable.compiles (h : c.Usable) :
    ∃ condition, compileLeaf c.field c.operator c.literal = .ok condition := by
  obtain ⟨op, ho⟩ := h.operator
  obtain ⟨p, hparse, -⟩ := parse_of_hasPath ⟨h.field, h.segments⟩
  have hvalue : op = .contains ∨ op = .notContains → c.literal ≠ none := by
    rintro (rfl | rfl)
    · exact h.value (.inl ho)
    · exact h.value (.inr ho)
  have hpattern : op = .regex →
      ∃ source q, c.literal = some (.text source) ∧ Pattern.ofText source = .ok q := by
    rintro rfl
    exact h.pattern ho
  obtain ⟨predicate, hpredicate⟩ := exists_compile hvalue hpattern
  exact ⟨_, (compileLeaf_of_parse ho hparse).trans (map_eq_ok_iff.2 ⟨_, hpredicate, rfl⟩)⟩

theorem exists_offends_of_not_usable (h : ¬ c.Usable) : ∃ fault, c.Offends fault := by
  by_contra hnone
  have hno (fault : Fault) : ¬ c.Offends fault := fun ho => hnone ⟨fault, ho⟩
  by_cases hop : ∃ op : Operator, op.Names c.operator
  · obtain ⟨op, ho⟩ := hop
    have hpath : c.path ≠ [] := fun hp => hno _ (.field ho hp)
    have hc : c.HasPath := ⟨hpath, fun hs => hno _ (.segment ho hpath hs)⟩
    refine h ⟨⟨op, ho⟩, hc.1, hc.2, ?_, ?_⟩
    · rintro (hname | hname) hl
      · exact hno _ (.value hname hc (.inl rfl) hl)
      · exact hno _ (.value hname hc (.inr rfl) hl)
    · intro hname
      by_cases htext : ∃ source, c.literal = some (.text source)
      · obtain ⟨source, hl⟩ := htext
        cases hp : Pattern.ofText source with
        | ok p => exact ⟨source, p, hl, hp⟩
        | error pf => exact absurd (.badPattern hname hc hl hp) (hno _)
      · exact absurd (.noPattern hname hc fun source hl => htext ⟨source, hl⟩) (hno _)
  · exact hno _ (.operator fun op ho => hop ⟨op, ho⟩)

theorem Usable.not_offends (h : c.Usable) {fault : Fault} : ¬ c.Offends fault := by
  intro ho
  obtain ⟨condition, hok⟩ := h.compiles
  cases hok.symm.trans (compileLeaf_of_offends ho)

theorem usable_iff_forall_not_offends : c.Usable ↔ ∀ fault, ¬ c.Offends fault := by
  constructor
  · exact fun h _ => h.not_offends
  · intro h
    by_contra hu
    obtain ⟨fault, ho⟩ := exists_offends_of_not_usable hu
    exact h fault ho

theorem compileLeaf_eq_error_iff {fault : Fault} :
    compileLeaf c.field c.operator c.literal = .error fault ↔ c.Offends fault := by
  refine ⟨fun h => ?_, compileLeaf_of_offends⟩
  by_cases hu : c.Usable
  · obtain ⟨condition, hok⟩ := hu.compiles
    cases hok.symm.trans h
  · obtain ⟨fault', ho⟩ := exists_offends_of_not_usable hu
    cases h.symm.trans (compileLeaf_of_offends ho)
    exact ho

theorem usable_of_compileLeaf {condition : Condition}
    (h : compileLeaf c.field c.operator c.literal = .ok condition) : c.Usable := by
  by_contra hu
  obtain ⟨fault, ho⟩ := exists_offends_of_not_usable hu
  cases h.symm.trans (compileLeaf_of_offends ho)

theorem evaluate_compileLeaf {condition : Condition}
    (h : compileLeaf c.field c.operator c.literal = .ok condition) (event : Value) :
    condition.evaluate event = true ↔ c.Holds event := by
  have hu := usable_of_compileLeaf h
  obtain ⟨op, ho⟩ := hu.operator
  obtain ⟨p, hparse, hsegments⟩ := parse_of_hasPath ⟨hu.field, hu.segments⟩
  rw [compileLeaf_of_parse ho hparse] at h
  obtain ⟨predicate, hpredicate, rfl⟩ := map_eq_ok_iff.1 h
  have hresolve : p.resolve event = c.value? event := by
    rw [FieldPath.resolve, hsegments, value?]
  have hholds : c.Holds event ↔ op.Holds c.literal (c.value? event) := by
    constructor
    · rintro ⟨op', ho', h⟩
      exact ho'.eq ho ▸ h
    · exact fun h => ⟨op, ho, h⟩
  rw [evaluate, hresolve, hholds]
  cases c.value? event with
  | none => exact test_none_iff hpredicate
  | some v => exact test_some_iff hpredicate v

end Comparison

end LossPrevention.Condition
