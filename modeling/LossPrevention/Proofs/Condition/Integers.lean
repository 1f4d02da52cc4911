import LossPrevention.Proofs.Binary64.Integers
import LossPrevention.Proofs.Condition.Comparison

/-!
Comparisons of integers. Both sides are compared by the binary numbers nearest to them, so that
every operator speaks of the rounded integers. Main statement: it says of two integers what it says
of what is left of them, which is exact as long as they do not become the same.
-/

namespace LossPrevention.Condition

open Json (Value)
open Binary64 (rounded excess)

/-- The integers that are read as such. -/
structure Fits (n : Int) : Prop where
  low : -2 ^ 63 ≤ n
  high : n < 2 ^ 64

theorem Fits.natAbs_lt {n : Int} (h : Fits n) : n.natAbs < 2 ^ 64 := by
  obtain ⟨hlow, hhigh⟩ := h
  omega

namespace Operator

/-- The operators that compare a value with one literal. -/
def comparing : List Operator := [eq, ne, gt, ge, lt, le]

/-- What a comparing operator says of two integers. -/
def Relates : Operator → Int → Int → Prop
  | eq, x, y => x = y
  | ne, x, y => x ≠ y
  | gt, x, y => x > y
  | ge, x, y => x ≥ y
  | lt, x, y => x < y
  | le, x, y => x ≤ y
  | _, _, _ => False

end Operator

/-- The operator can be used with the literal, and then it asks this of the value. -/
def Demands (op : Operator) (literal v : Value) (P : Prop) : Prop :=
  ∃ p, Predicate.compile op (some literal) = .ok p ∧ (p.test (some v) = true ↔ P)

section Demands

variable {x y : Int} {zs : List Int}

theorem demands_iff {op : Operator} {literal v : Value} {P : Prop} (hop : op ≠ .regex) :
    Demands op literal v P ↔ (op.Holds (some literal) (some v) ↔ P) := by
  obtain ⟨p, hp⟩ : ∃ p, Predicate.compile op (some literal) = .ok p :=
    exists_compile (fun _ => Option.some_ne_none _) (fun h => absurd h hop)
  constructor
  · rintro ⟨q, hq, htest⟩
    rw [← test_some_iff hq, htest]
  · intro h
    exact ⟨p, hp, (test_some_iff hp v).trans h⟩

/-! ### Two integers -/

theorem equal_ofInt (hx : Fits x) (hy : Fits y) :
    (Value.ofInt x).equal (.ofInt y) = true ↔ rounded x = rounded y := by
  have hequal : (Value.ofInt x).equal (.ofInt y) =
      decide (Binary64.rank (Binary64.ofInt x) = Binary64.rank (Binary64.ofInt y)) := by
    rw [Value.ofInt, Value.ofInt, Value.equal]
    rfl
  rw [hequal, decide_eq_true_iff]
  exact Binary64.rank_ofInt_eq_iff hx.natAbs_lt hy.natAbs_lt

theorem related_ofInt {R : Int → Int → Prop} :
    Related R (.ofInt x) (some (.ofInt y)) ↔
      R (Binary64.rank (Binary64.ofInt x)) (Binary64.rank (Binary64.ofInt y)) := by
  constructor
  · rintro ⟨m, n, ⟨⟩, ⟨⟩, h⟩
    exact h
  · exact fun h => ⟨_, _, rfl, rfl, h⟩

theorem demands_of_comparing {op : Operator} (hop : op ∈ Operator.comparing) (hx : Fits x)
    (hy : Fits y) : Demands op (.ofInt y) (.ofInt x) (op.Relates (rounded x) (rounded y)) := by
  have hlt := Binary64.rank_ofInt_lt_iff hx.natAbs_lt hy.natAbs_lt
  have hgt := Binary64.rank_ofInt_lt_iff hy.natAbs_lt hx.natAbs_lt
  have hregex : op ≠ .regex := by
    rintro rfl
    exact absurd hop (by decide)
  rw [demands_iff hregex]
  simp only [Operator.comparing, List.mem_cons, List.not_mem_nil, or_false] at hop
  rcases hop with rfl | rfl | rfl | rfl | rfl | rfl
  · exact equal_ofInt hx hy
  · have hne := not_congr (equal_ofInt hx hy)
    rw [Bool.not_eq_true] at hne
    exact hne
  · exact related_ofInt.trans hgt
  · refine related_ofInt.trans ?_
    rw [ge_iff_le, ← Int.not_lt, hlt, Int.not_lt]
    exact Iff.rfl
  · exact related_ofInt.trans hlt
  · refine related_ofInt.trans ?_
    rw [← Int.not_lt, hgt, Int.not_lt]
    exact Iff.rfl

/-- All operators are exact if and only if rounding does not bring the two integers together. -/
theorem exact_iff (hx : Fits x) (hy : Fits y) :
    (∀ op ∈ Operator.comparing, Demands op (.ofInt y) (.ofInt x) (op.Relates x y)) ↔
      (rounded x = rounded y → x = y) := by
  constructor
  · intro h
    have heq : Operator.eq ∈ Operator.comparing := List.mem_cons_self
    have hrounded := (demands_iff (by decide)).1 (demands_of_comparing heq hx hy)
    have hexact := (demands_iff (by decide)).1 (h .eq heq)
    exact (hrounded.symm.trans hexact).1
  · intro h op hop
    have hle := @Binary64.rounded_mono x y
    have hge := @Binary64.rounded_mono y x
    have hrelates : op.Relates (rounded x) (rounded y) ↔ op.Relates x y := by
      simp only [Operator.comparing, List.mem_cons, List.not_mem_nil, or_false] at hop
      rcases hop with rfl | rfl | rfl | rfl | rfl | rfl <;> simp only [Operator.Relates] <;> omega
    rw [← hrelates]
    exact demands_of_comparing hop hx hy

/-! ### Integers in lists -/

/-- A list of integers as a value. -/
def integers (zs : List Int) : Value := .list (zs.map .ofInt)

theorem exists_equal_iff (hx : Fits x) (hzs : ∀ z ∈ zs, Fits z) :
    (∃ v ∈ zs.map Value.ofInt, (Value.ofInt x).equal v = true) ↔ rounded x ∈ zs.map rounded := by
  simp only [List.mem_map, exists_exists_and_eq_and]
  refine exists_congr fun z => and_congr_right fun hz => ?_
  rw [equal_ofInt hx (hzs z hz)]
  exact eq_comm

theorem exists_equal_iff' (hx : Fits x) (hzs : ∀ z ∈ zs, Fits z) :
    (∃ v ∈ zs.map Value.ofInt, v.equal (.ofInt x) = true) ↔ rounded x ∈ zs.map rounded := by
  simp only [List.mem_map, exists_exists_and_eq_and]
  exact exists_congr fun z => and_congr_right fun hz => equal_ofInt (hzs z hz) hx

theorem demands_isIn (hx : Fits x) (hzs : ∀ z ∈ zs, Fits z) :
    Demands .isIn (integers zs) (.ofInt x) (rounded x ∈ zs.map rounded) := by
  rw [demands_iff (by decide), ← exists_equal_iff hx hzs]
  constructor
  · rintro ⟨_, ⟨⟩, h⟩
    exact h
  · exact fun h => ⟨_, rfl, h⟩

theorem demands_notIn (hx : Fits x) (hzs : ∀ z ∈ zs, Fits z) :
    Demands .notIn (integers zs) (.ofInt x) (rounded x ∉ zs.map rounded) := by
  rw [demands_iff (by decide), ← exists_equal_iff hx hzs]
  simp only [not_exists, not_and, Bool.not_eq_true]
  constructor
  · rintro ⟨_, ⟨⟩, h⟩
    exact h
  · exact fun h => ⟨_, rfl, h⟩

theorem demands_contains (hx : Fits x) (hzs : ∀ z ∈ zs, Fits z) :
    Demands .contains (.ofInt x) (integers zs) (rounded x ∈ zs.map rounded) := by
  rw [demands_iff (by decide), ← exists_equal_iff' hx hzs]
  constructor
  · rintro ⟨_, ⟨⟩, -, h⟩
    exact h
  · exact fun h => ⟨_, rfl, trivial, h⟩

theorem demands_notContains (hx : Fits x) (hzs : ∀ z ∈ zs, Fits z) :
    Demands .notContains (.ofInt x) (integers zs) (rounded x ∉ zs.map rounded) := by
  rw [demands_iff (by decide), ← exists_equal_iff' hx hzs]
  constructor
  · rintro ⟨_, ⟨⟩, -, h⟩
    exact h
  · exact fun h => ⟨_, rfl, trivial, h⟩

/-- What every operator says of integers it says of the rounded integers, and for lists of them of
those. On two integers all operators are exact if and only if rounding does not bring the two
together. Rounding keeps order and integers of up to 53 digits, and changes a longer one by at most
half of the last digit that stays. -/
theorem compares_rounded (hx : Fits x) (hy : Fits y) (hzs : ∀ z ∈ zs, Fits z) :
    (∀ op ∈ Operator.comparing,
      Demands op (.ofInt y) (.ofInt x) (op.Relates (rounded x) (rounded y))) ∧
    Demands .isIn (integers zs) (.ofInt x) (rounded x ∈ zs.map rounded) ∧
    Demands .notIn (integers zs) (.ofInt x) (rounded x ∉ zs.map rounded) ∧
    Demands .contains (.ofInt x) (integers zs) (rounded x ∈ zs.map rounded) ∧
    Demands .notContains (.ofInt x) (integers zs) (rounded x ∉ zs.map rounded) ∧
    ((∀ op ∈ Operator.comparing, Demands op (.ofInt y) (.ofInt x) (op.Relates x y)) ↔
      (rounded x = rounded y → x = y)) ∧
    (x ≤ y → rounded x ≤ rounded y) ∧
    (x.natAbs ≤ 2 ^ 53 → rounded x = x) ∧
    2 * (rounded x - x).natAbs ≤ 2 ^ excess x.natAbs :=
  ⟨fun _ hop => demands_of_comparing hop hx hy, demands_isIn hx hzs, demands_notIn hx hzs,
    demands_contains hx hzs, demands_notContains hx hzs, exact_iff hx hy, Binary64.rounded_mono,
    Binary64.rounded_of_le, Binary64.rounded_error x⟩

theorem compares_rounded_odd :
    Fits 9007199254740993 ∧ Fits 9007199254740994 ∧
    rounded 9007199254740993 = 9007199254740992 ∧
    Demands .lt (.ofInt 9007199254740994) (.ofInt 9007199254740993) True ∧
    Demands .isIn (integers [9007199254740994]) (.ofInt 9007199254740993) False := by
  have hx : Fits 9007199254740993 := ⟨by decide, by decide⟩
  have hy : Fits 9007199254740994 := ⟨by decide, by decide⟩
  have hrounded : rounded 9007199254740993 = 9007199254740992 := by decide +kernel
  have hrounded' : rounded 9007199254740994 = 9007199254740994 := by decide +kernel
  obtain ⟨hcompare, ⟨q, hq, hlist⟩, -⟩ := compares_rounded hx hy (List.forall_mem_singleton.2 hy)
  obtain ⟨p, hp, hless⟩ := hcompare .lt (by decide)
  rw [hrounded, hrounded'] at hless
  rw [hrounded, List.map_singleton, hrounded'] at hlist
  have hlt : Operator.lt.Relates 9007199254740992 9007199254740994 := by
    rw [Operator.Relates]
    decide
  exact ⟨hx, hy, hrounded, ⟨p, hp, hless.trans (iff_true_intro hlt)⟩,
    ⟨q, hq, hlist.trans (iff_false_intro (by decide))⟩⟩

/-- The two integers about the end of 53 digits are taken for one. -/
theorem equates_neighbours :
    (9007199254740992 : Int) ≠ 9007199254740993 ∧
    Demands .eq (.ofInt 9007199254740993) (.ofInt 9007199254740992) True ∧
    Demands .lt (.ofInt 9007199254740993) (.ofInt 9007199254740992) False ∧
    Demands .isIn (integers [9007199254740993]) (.ofInt 9007199254740992) True := by
  refine ⟨by decide, ⟨_, rfl, ?_⟩, ⟨_, rfl, ?_⟩, ⟨_, rfl, ?_⟩⟩ <;> decide +kernel

end Demands

end LossPrevention.Condition
