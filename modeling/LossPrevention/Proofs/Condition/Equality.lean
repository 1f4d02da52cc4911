import LossPrevention.Proofs.Binary64.Values
import LossPrevention.Proofs.Condition.Integers

/-!
Equality and order of values. Two values are equal if they differ in their numbers only, and the
numbers in the same places of both can stand for each other. Main statement: equality is an
equivalence, every comparison of two numbers follows from the order of their values, and a leaf that
compares a field does not tell equal values apart.
-/

namespace LossPrevention.Json

namespace Number

abbrev Relation := Number → Number → Prop

/-- The value of the binary number that a number is taken for. -/
def value (n : Number) : ℚ := Binary64.value n.toFloat

variable {l m n : Number}

theorem compare_rank (m n : Number) : compare m.rank n.rank = compare m.value n.value := by
  rcases lt_trichotomy m.value n.value with h | h | h
  · rw [compare_lt_iff_lt.2 h, compare_lt_iff_lt]
    exact Binary64.rank_lt_iff.2 h
  · rw [compare_eq_iff_eq.2 h, compare_eq_iff_eq]
    exact Binary64.rank_eq_iff.2 h
  · rw [compare_gt_iff_gt.2 h, compare_gt_iff_gt]
    exact Binary64.rank_lt_iff.2 h

/-- Numbers with the same value. -/
abbrev SameRank (m n : Number) : Prop := m.rank = n.rank

/-- Numbers with the same value and of the same kind. -/
inductive Identical : Number → Number → Prop
  | int (n : Int) : Identical (.int n) (.int n)
  | float {x y : Float} (h : Binary64.rank x = Binary64.rank y) : Identical (.float x) (.float y)

theorem identical_iff : m.identical n = true ↔ Identical m n := by
  constructor
  · intro h
    cases m <;> cases n
    · exact of_decide_eq_true h ▸ .int _
    · cases h
    · cases h
    · exact .float (of_decide_eq_true h)
  · rintro (_ | h)
    · exact decide_eq_true rfl
    · exact decide_eq_true h

theorem Identical.refl : ∀ n : Number, Identical n n
  | .int n => .int n
  | .float _ => .float rfl

theorem Identical.join : Identical l m → Identical l n → Identical m n
  | .int n, .int _ => .int n
  | .float h, .float h' => .float (h.symm.trans h')

theorem Identical.sameRank : Identical m n → SameRank m n
  | .int _ => rfl
  | .float h => h

end Number

namespace Value

mutual

/-- Values that differ in their numbers only. The number in one place of both is related by `R`
outside objects and by `S` inside them. -/
inductive Alike (S : Number.Relation) : Number.Relation → Value → Value → Prop
  | null {R : Number.Relation} : Alike S R .null .null
  | bool {R : Number.Relation} (b : Bool) : Alike S R (.bool b) (.bool b)
  | number {R : Number.Relation} {m n : Number} (h : R m n) : Alike S R (.number m) (.number n)
  | text {R : Number.Relation} (s : String) : Alike S R (.text s) (.text s)
  | list {R : Number.Relation} {xs ys : List Value} (h : AlikeItems S R xs ys) :
      Alike S R (.list xs) (.list ys)
  | object {R : Number.Relation} {fs gs : Fields} (h : AlikeFields S fs gs) :
      Alike S R (.object fs) (.object gs)

inductive AlikeItems (S : Number.Relation) : Number.Relation → List Value → List Value → Prop
  | nil {R : Number.Relation} : AlikeItems S R [] []
  | cons {R : Number.Relation} {x y : Value} {xs ys : List Value} (h : Alike S R x y)
      (hs : AlikeItems S R xs ys) : AlikeItems S R (x :: xs) (y :: ys)

inductive AlikeFields (S : Number.Relation) : Fields → Fields → Prop
  | nil : AlikeFields S [] []
  | cons {k : String} {v w : Value} {fs gs : Fields} (h : Alike S S v w)
      (hs : AlikeFields S fs gs) : AlikeFields S ((k, v) :: fs) ((k, w) :: gs)

end

/-! ### Values that are alike -/

section Alike

variable {S S' S'' : Number.Relation}

mutual

theorem Alike.refl {R : Number.Relation} (hR : ∀ n, R n n) (hS : ∀ n, S n n) :
    ∀ v : Value, Alike S R v v
  | .null => .null
  | .bool b => .bool b
  | .number n => .number (hR n)
  | .text s => .text s
  | .list xs => .list (AlikeItems.refl hR hS xs)
  | .object fs => .object (AlikeFields.refl hS fs)

theorem AlikeItems.refl {R : Number.Relation} (hR : ∀ n, R n n) (hS : ∀ n, S n n) :
    ∀ xs : List Value, AlikeItems S R xs xs
  | [] => .nil
  | x :: xs => .cons (Alike.refl hR hS x) (AlikeItems.refl hR hS xs)

theorem AlikeFields.refl (hS : ∀ n, S n n) : ∀ fs : Fields, AlikeFields S fs fs
  | [] => .nil
  | (_, v) :: fs => .cons (Alike.refl hS hS v) (AlikeFields.refl hS fs)

end

mutual

/-- Two values that are like a third are like each other. -/
theorem Alike.join {R : Number.Relation} (hR : ∀ l m n, R l m → R l n → R m n)
    (hS : ∀ l m n, S l m → S l n → S m n) :
    ∀ {u v w : Value}, Alike S R u v → Alike S R u w → Alike S R v w
  | _, _, _, .null, .null => .null
  | _, _, _, .bool b, .bool _ => .bool b
  | _, _, _, .number h, .number h' => .number (hR _ _ _ h h')
  | _, _, _, .text s, .text _ => .text s
  | _, _, _, .list h, .list h' => .list (h.join hR hS h')
  | _, _, _, .object h, .object h' => .object (h.join hS h')

theorem AlikeItems.join {R : Number.Relation} (hR : ∀ l m n, R l m → R l n → R m n)
    (hS : ∀ l m n, S l m → S l n → S m n) :
    ∀ {xs ys zs : List Value}, AlikeItems S R xs ys → AlikeItems S R xs zs → AlikeItems S R ys zs
  | _, _, _, .nil, .nil => .nil
  | _, _, _, .cons h hs, .cons h' hs' => .cons (h.join hR hS h') (hs.join hR hS hs')

theorem AlikeFields.join (hS : ∀ l m n, S l m → S l n → S m n) :
    ∀ {fs gs ks : Fields}, AlikeFields S fs gs → AlikeFields S fs ks → AlikeFields S gs ks
  | _, _, _, .nil, .nil => .nil
  | _, _, _, .cons h hs, .cons h' hs' => .cons (h.join hS hS h') (hs.join hS hs')

end

mutual

/-- What two relations say of the numbers together. -/
theorem Alike.meet {R R' R'' : Number.Relation} (hR : ∀ m n, R m n → R' m n → R'' m n)
    (hS : ∀ m n, S m n → S' m n → S'' m n) :
    ∀ {v w : Value}, Alike S R v w → Alike S' R' v w → Alike S'' R'' v w
  | _, _, .null, .null => .null
  | _, _, .bool b, .bool _ => .bool b
  | _, _, .number h, .number h' => .number (hR _ _ h h')
  | _, _, .text s, .text _ => .text s
  | _, _, .list h, .list h' => .list (h.meet hR hS h')
  | _, _, .object h, .object h' => .object (h.meet hS h')

theorem AlikeItems.meet {R R' R'' : Number.Relation} (hR : ∀ m n, R m n → R' m n → R'' m n)
    (hS : ∀ m n, S m n → S' m n → S'' m n) :
    ∀ {xs ys : List Value}, AlikeItems S R xs ys → AlikeItems S' R' xs ys → AlikeItems S'' R'' xs ys
  | _, _, .nil, .nil => .nil
  | _, _, .cons h hs, .cons h' hs' => .cons (h.meet hR hS h') (hs.meet hR hS hs')

theorem AlikeFields.meet (hS : ∀ m n, S m n → S' m n → S'' m n) :
    ∀ {fs gs : Fields}, AlikeFields S fs gs → AlikeFields S' fs gs → AlikeFields S'' fs gs
  | _, _, .nil, .nil => .nil
  | _, _, .cons h hs, .cons h' hs' => .cons (h.meet hS hS h') (hs.meet hS hs')

end

theorem Alike.mono {R R' : Number.Relation} (hR : ∀ m n, R m n → R' m n)
    (hS : ∀ m n, S m n → S' m n) {v w : Value} (h : Alike S R v w) : Alike S' R' v w :=
  h.meet (fun _ _ h _ => hR _ _ h) (fun _ _ h _ => hS _ _ h) h

theorem AlikeItems.exists_iff {R : Number.Relation} {P : Value → Prop}
    (hP : ∀ x y, Alike S R x y → (P x ↔ P y)) :
    ∀ {xs ys : List Value}, AlikeItems S R xs ys → ((∃ x ∈ xs, P x) ↔ ∃ y ∈ ys, P y)
  | _, _, .nil => Iff.rfl
  | _, _, .cons h hs => by
      rw [List.exists_mem_cons_iff, List.exists_mem_cons_iff, hP _ _ h, hs.exists_iff hP]

end Alike

/-! ### Equality -/

open Number (Identical SameRank)

mutual

theorem alike_of_identical : ∀ {v w : Value}, v.identical w = true → Alike Identical Identical v w
  | .null, w, h => by
      cases w <;> cases h
      exact .null
  | .bool a, w, h => by
      cases w with
      | bool b => exact of_decide_eq_true h ▸ .bool a
      | _ => cases h
  | .number m, w, h => by
      cases w with
      | number n => exact .number (Number.identical_iff.1 h)
      | _ => cases h
  | .text s, w, h => by
      cases w with
      | text t => exact of_decide_eq_true h ▸ .text s
      | _ => cases h
  | .list xs, w, h => by
      cases w with
      | list ys => exact .list (alikeItems_of_identical h)
      | _ => cases h
  | .object fs, w, h => by
      cases w with
      | object gs => exact .object (alikeFields_of_identical h)
      | _ => cases h

theorem alikeItems_of_identical : ∀ {xs ys : List Value}, identicalItems xs ys = true →
    AlikeItems Identical Identical xs ys
  | [], ys, h => by
      cases ys <;> cases h
      exact .nil
  | x :: xs, ys, h => by
      cases ys with
      | nil => cases h
      | cons y ys =>
          obtain ⟨hx, hxs⟩ := Bool.and_eq_true_iff.1 h
          exact .cons (alike_of_identical hx) (alikeItems_of_identical hxs)

theorem alikeFields_of_identical : ∀ {fs gs : Fields}, identicalFields fs gs = true →
    AlikeFields Identical fs gs
  | [], gs, h => by
      cases gs <;> cases h
      exact .nil
  | (k, v) :: fs, gs, h => by
      cases gs with
      | nil => cases h
      | cons g gs =>
          obtain ⟨h, hfs⟩ := Bool.and_eq_true_iff.1 h
          obtain ⟨hk, hv⟩ := Bool.and_eq_true_iff.1 h
          obtain ⟨l, w⟩ := g
          cases of_decide_eq_true hk
          exact .cons (alike_of_identical hv) (alikeFields_of_identical hfs)

end

mutual

theorem Alike.identical : ∀ {v w : Value}, Alike Identical Identical v w → v.identical w = true
  | _, _, .null => rfl
  | _, _, .bool _ => decide_eq_true rfl
  | _, _, .number h => Number.identical_iff.2 h
  | _, _, .text _ => decide_eq_true rfl
  | _, _, .list h => h.identical
  | _, _, .object h => h.identical

theorem AlikeItems.identical : ∀ {xs ys : List Value}, AlikeItems Identical Identical xs ys →
    identicalItems xs ys = true
  | _, _, .nil => rfl
  | _, _, .cons h hs => Bool.and_eq_true_iff.2 ⟨h.identical, hs.identical⟩

theorem AlikeFields.identical : ∀ {fs gs : Fields}, AlikeFields Identical fs gs →
    identicalFields fs gs = true
  | _, _, .nil => rfl
  | _, _, .cons h hs => Bool.and_eq_true_iff.2
      ⟨Bool.and_eq_true_iff.2 ⟨decide_eq_true rfl, h.identical⟩, hs.identical⟩

end

mutual

theorem alike_of_equal : ∀ {v w : Value}, v.equal w = true → Alike Identical SameRank v w
  | .number m, w, h => by
      cases w with
      | number n => exact .number (of_decide_eq_true h)
      | _ => cases h
  | .list xs, w, h => by
      cases w with
      | list ys => exact .list (alikeItems_of_equal h)
      | _ => cases h
  -- any other value is equal to what it is identical to
  | .null, _, h | .bool _, _, h | .text _, _, h | .object _, _, h =>
      (alike_of_identical h).mono (fun _ _ => Identical.sameRank) fun _ _ hsame => hsame

theorem alikeItems_of_equal : ∀ {xs ys : List Value}, equalItems xs ys = true →
    AlikeItems Identical SameRank xs ys
  | [], ys, h => by
      cases ys <;> cases h
      exact .nil
  | x :: xs, ys, h => by
      cases ys with
      | nil => cases h
      | cons y ys =>
          obtain ⟨hx, hxs⟩ := Bool.and_eq_true_iff.1 h
          exact .cons (alike_of_equal hx) (alikeItems_of_equal hxs)

end

mutual

theorem Alike.equal : ∀ {v w : Value}, Alike Identical SameRank v w → v.equal w = true
  | _, _, .null => rfl
  | _, _, .bool _ => decide_eq_true rfl
  | _, _, .number h => decide_eq_true h
  | _, _, .text _ => decide_eq_true rfl
  | _, _, .list h => h.equal
  | _, _, .object h => h.identical

theorem AlikeItems.equal : ∀ {xs ys : List Value}, AlikeItems Identical SameRank xs ys →
    equalItems xs ys = true
  | _, _, .nil => rfl
  | _, _, .cons h hs => Bool.and_eq_true_iff.2 ⟨h.equal, hs.equal⟩

end

variable {u v w : Value}

/-- Outside objects equal values have equal numbers, inside them numbers of the same kind. -/
theorem equal_iff : v.equal w = true ↔ Alike Identical SameRank v w :=
  ⟨alike_of_equal, Alike.equal⟩

theorem equal_self (v : Value) : v.equal v = true :=
  equal_iff.2 (Alike.refl (R := SameRank) (fun _ => rfl) Identical.refl v)

theorem equal_join (h : u.equal v = true) (h' : u.equal w = true) : v.equal w = true :=
  equal_iff.2 ((equal_iff.1 h).join (fun _ _ _ h h' => h.symm.trans h')
    (fun _ _ _ h h' => h.join h') (equal_iff.1 h'))

theorem equal_symm (h : v.equal w = true) : w.equal v = true := equal_join h (equal_self v)

theorem equivalence_equal : Equivalence fun v w : Value => v.equal w = true where
  refl := equal_self
  symm := equal_symm
  trans h h' := equal_join (equal_symm h) h'

theorem equal_congr_left (h : v.equal w = true) (u : Value) : v.equal u = w.equal u :=
  Bool.eq_iff_iff.2 ⟨equal_join h, equal_join (equal_symm h)⟩

theorem equal_congr_right (h : v.equal w = true) (u : Value) : u.equal v = u.equal w :=
  Bool.eq_iff_iff.2 ⟨fun hu => equal_join (equal_symm hu) h,
    fun hu => equal_join (equal_symm hu) (equal_symm h)⟩

end Value

end LossPrevention.Json

namespace LossPrevention.Condition

open Json (Number Value)

/-! ### Two numbers -/

namespace Operator

/-- Whether a comparing operator is met by a value that stands so to its literal. -/
def Allows : Operator → Ordering → Prop
  | eq, o => o = .eq
  | ne, o => o ≠ .eq
  | gt, o => o = .gt
  | ge, o => o = .gt ∨ o = .eq
  | lt, o => o = .lt
  | le, o => o = .lt ∨ o = .eq
  | _, _ => False

theorem relates_iff_allows {op : Operator} (hop : op ∈ comparing) (x y : Int) :
    op.Relates x y ↔ op.Allows (compare x y) := by
  simp only [comparing, List.mem_cons, List.not_mem_nil, or_false] at hop
  rcases hop with rfl | rfl | rfl | rfl | rfl | rfl
  · exact compare_eq_iff_eq.symm
  · exact not_congr compare_eq_iff_eq.symm
  · exact compare_gt_iff_gt.symm
  · rw [Relates, Allows, compare_gt_iff_gt, compare_eq_iff_eq]
    omega
  · exact compare_lt_iff_lt.symm
  · rw [Relates, Allows, compare_lt_iff_lt, compare_eq_iff_eq]
    omega

end Operator

theorem related_number {R : Int → Int → Prop} {m n : Number} :
    Related R (.number m) (some (.number n)) ↔ R m.rank n.rank := by
  constructor
  · rintro ⟨_, _, ⟨⟩, ⟨⟩, h⟩
    exact h
  · exact fun h => ⟨_, _, rfl, rfl, h⟩

theorem demands_number {op : Operator} (hop : op ∈ Operator.comparing) (m n : Number) :
    Demands op (.number n) (.number m) (op.Allows (compare m.value n.value)) := by
  have hregex : op ≠ .regex := ne_of_mem_of_not_mem hop (by decide)
  rw [demands_iff hregex, ← Number.compare_rank, ← Operator.relates_iff_allows hop]
  simp only [Operator.comparing, List.mem_cons, List.not_mem_nil, or_false] at hop
  have hequal : (Value.number m).equal (.number n) = true ↔ m.rank = n.rank := decide_eq_true_iff
  rcases hop with rfl | rfl | rfl | rfl | rfl | rfl
  · exact hequal
  · have hne := not_congr hequal
    rw [Bool.not_eq_true] at hne
    exact hne
  all_goals exact related_number

/-! ### Substitution -/

section Substitution

variable {op : Operator} {v w : Value}

theorem related_of_equal {R : Int → Int → Prop} {literal : Option Value} (h : v.equal w = true)
    (hv : Related R v literal) : Related R w literal := by
  obtain ⟨m, n, rfl, rfl, hR⟩ := hv
  cases Value.equal_iff.1 h with
  | number hrank => exact ⟨_, n, rfl, rfl, hrank ▸ hR⟩

theorem related_congr {R : Int → Int → Prop} (h : v.equal w = true) (literal : Option Value) :
    Related R v literal ↔ Related R w literal :=
  ⟨related_of_equal h, related_of_equal (Value.equal_symm h)⟩

theorem searchable_congr_left (h : v.equal w = true) (needle : Value) :
    Searchable v needle ↔ Searchable w needle := by
  cases Value.equal_iff.1 h <;> exact Iff.rfl

theorem searchable_congr_right (h : v.equal w = true) (u : Value) :
    Searchable u v ↔ Searchable u w := by
  cases u <;> cases Value.equal_iff.1 h <;> exact Iff.rfl

theorem exists_equal_congr_left {xs ys : List Value}
    (h : Value.AlikeItems Number.Identical Number.SameRank xs ys) (u : Value) :
    (∃ x ∈ xs, x.equal u = true) ↔ ∃ y ∈ ys, y.equal u = true :=
  h.exists_iff fun _ _ hxy => by rw [Value.equal_congr_left (Value.equal_iff.2 hxy)]

theorem holding_congr_left (h : v.equal w = true) (needle : Value) :
    Holding v needle ↔ Holding w needle := by
  cases Value.equal_iff.1 h with
  | list hs => exact exists_equal_congr_left hs needle
  | _ => exact Iff.rfl

theorem holding_congr_right (h : v.equal w = true) (u : Value) : Holding u v ↔ Holding u w := by
  cases u with
  | list items => simp only [Holding, Value.equal_congr_right h]
  | text s => cases Value.equal_iff.1 h <;> exact Iff.rfl
  | _ => exact Iff.rfl

/-- Equal values get the same from all operators that do not look at how a value is written. -/
theorem holds_congr_value (hregex : op ≠ .regex) (hluhn : op ≠ .luhn) (h : v.equal w = true)
    (literal : Option Value) : op.Holds literal (some v) ↔ op.Holds literal (some w) := by
  cases op with
  | eq | ne | isIn | notIn => simp only [Operator.Holds, Value.equal_congr_left h]
  | gt | ge | lt | le => exact related_congr h literal
  | contains | notContains =>
      simp only [Operator.Holds, searchable_congr_left h, holding_congr_left h]
  | present | absent => exact Iff.rfl
  | regex => exact absurd rfl hregex
  | luhn => exact absurd rfl hluhn

theorem test_congr {literal : Option Value} {p : Predicate} (hregex : op ≠ .regex)
    (hluhn : op ≠ .luhn) (hp : Predicate.compile op literal = .ok p) (h : v.equal w = true) :
    p.test (some v) = p.test (some w) := by
  rw [Bool.eq_iff_iff, test_some_iff hp, test_some_iff hp]
  exact holds_congr_value hregex hluhn h literal

end Substitution

/-- The operators that compare a value, with one literal or with a list of them. -/
def Operator.matching : List Operator := comparing ++ [isIn, notIn]

theorem exists_compile_matching {op : Operator} (hop : op ∈ Operator.matching)
    (literal : Option Value) : ∃ p, Predicate.compile op literal = .ok p := by
  have hregex : op ≠ .regex := ne_of_mem_of_not_mem hop (by decide)
  refine exists_compile ?_ fun h => absurd h hregex
  rintro (rfl | rfl) <;> exact absurd hop (by decide)

/-- Equality is an equivalence. On any two numbers every comparing operator says what the order of
their values says, so that one of less, equal and greater holds and the others are made of these.
Equal values that stand at a field get the same answer from every operator that compares a value. -/
theorem equality_coherent :
    Equivalence (fun v w : Value => v.equal w = true) ∧
    (∀ m n : Number, ∀ op ∈ Operator.comparing,
      Demands op (.number n) (.number m) (op.Allows (compare m.value n.value))) ∧
    (∀ v w : Value, v.equal w = true → ∀ op ∈ Operator.matching, ∀ literal : Option Value,
      ∃ p, Predicate.compile op literal = .ok p ∧
        ∀ (path : FieldPath) (event event' : Value), path.resolve event = some v →
          path.resolve event' = some w →
          (leaf path p).evaluate event = (leaf path p).evaluate event') := by
  refine ⟨Value.equivalence_equal, fun m n op hop => demands_number hop m n, ?_⟩
  intro v w h op hop literal
  obtain ⟨p, hp⟩ := exists_compile_matching hop literal
  refine ⟨p, hp, fun path event event' hv hw => ?_⟩
  have hregex : op ≠ .regex := ne_of_mem_of_not_mem hop (by decide)
  have hluhn : op ≠ .luhn := ne_of_mem_of_not_mem hop (by decide)
  rw [evaluate, evaluate, hv, hw]
  exact test_congr hregex hluhn hp h

theorem equality_coherent_two :
    Demands .ge (.number (.float (Binary64.ofInt 2))) (.ofInt 2) True ∧
    (Value.list [.ofInt 2]).equal (.list [.number (.float (Binary64.ofInt 2))]) = true ∧
    ∃ p, Predicate.compile .isIn (some (.list [.list [.ofInt 2]])) = .ok p ∧
      (leaf ⟨"n", []⟩ p).evaluate (.object [("n", .list [.ofInt 2])]) =
        (leaf ⟨"n", []⟩ p).evaluate
          (.object [("n", .list [.number (.float (Binary64.ofInt 2))])]) := by
  obtain ⟨-, hnumbers, hfields⟩ := equality_coherent
  have hallows : Operator.ge.Allows
      (compare (Number.int 2).value (Number.float (Binary64.ofInt 2)).value) :=
    .inr (compare_eq_iff_eq.2 rfl)
  obtain ⟨q, hq, htest⟩ := hnumbers (.int 2) (.float (Binary64.ofInt 2)) .ge (by decide)
  have hequal : (Value.list [.ofInt 2]).equal (.list [.number (.float (Binary64.ofInt 2))]) =
      true := Value.equal_iff.2 (.list (.cons (.number rfl) .nil))
  obtain ⟨p, hp, hfield⟩ := hfields _ _ hequal .isIn (by decide) (some (.list [.list [.ofInt 2]]))
  exact ⟨⟨q, hq, htest.trans (iff_true_intro hallows)⟩, hequal, p, hp,
    hfield ⟨"n", []⟩ _ _ rfl rfl⟩

end LossPrevention.Condition
