import LossPrevention.Proofs.Condition.Equality
import LossPrevention.Proofs.Json.Numbers

/-!
Numbers written in another way. An integer and a float of the same value can stand for each other
in lists, but not inside objects, where only numbers of the same kind are equal. Main statement: the
operators that look for equal values tell two spellings of a value apart if and only if a number
inside an object is spelled in two ways.
-/

namespace LossPrevention.Json

/-- The same number, or an integer and a float with just its value. -/
inductive Number.Respelled : Number → Number → Prop
  | same (n : Number) : Respelled n n
  | asFloat {n : Int} {x : Float} (hn : (Number.int n).Fits) (hx : Binary64.value x = n) :
      Respelled (.int n) (.float x)
  | asInt {n : Int} {x : Float} (hn : (Number.int n).Fits) (hx : Binary64.value x = n) :
      Respelled (.float x) (.int n)

namespace Number.Respelled

variable {m n : Number}

theorem sameRank (h : Respelled m n) : SameRank m n := by
  have hrank {i : Int} {x : Float} (hi : (Number.int i).Fits) (hx : Binary64.value x = i) :
      Binary64.rank x = Binary64.rank (Binary64.ofInt i) := by
    obtain ⟨hlow, hhigh⟩ : -2 ^ 63 ≤ i ∧ i < 2 ^ 64 := hi
    exact Binary64.rank_eq_of_value (by omega) hx
  cases h with
  | same => rfl
  | asFloat hi hx => exact (hrank hi hx).symm
  | asInt hi hx => exact hrank hi hx

theorem eq_of_identical (h : Respelled m n) (hsame : Identical m n) : m = n := by
  cases h with
  | same => rfl
  | asFloat | asInt => cases hsame

end Number.Respelled

namespace Value

/-- The values differ in the spelling of numbers only, anywhere. -/
def Respelled (v w : Value) : Prop := Alike Number.Respelled Number.Respelled v w

/-- The values differ in the spelling of numbers outside objects only. -/
def RespelledOutside (v w : Value) : Prop := Alike Eq Number.Respelled v w

variable {v w : Value}

theorem Respelled.equal_iff (h : v.Respelled w) : v.equal w = true ↔ v.RespelledOutside w := by
  rw [Value.equal_iff]
  constructor
  · exact Alike.meet (fun _ _ hsame _ => hsame) (fun _ _ hsame hid => hsame.eq_of_identical hid) h
  · exact Alike.mono (fun _ _ hsame => hsame.sameRank) fun _ _ heq => heq ▸ Number.Identical.refl _

end Value

end LossPrevention.Json

namespace LossPrevention.Condition

open Json (Number Value)

/-- The operators that look for equal values. -/
def Operator.equating : List Operator := [eq, ne, isIn, notIn, contains, notContains]

/-- The operator can be used with either literal, and says the same of the one value as of the
other. -/
def Agrees (op : Operator) (literal literal' v w : Value) : Prop :=
  ∃ P : Prop, Demands op literal v P ∧ Demands op literal' w P

section Agrees

variable {op : Operator} {v w : Value}

theorem agrees_iff (hop : op ≠ .regex) {literal literal' : Value} :
    Agrees op literal literal' v w ↔
      (op.Holds (some literal) (some v) ↔ op.Holds (some literal') (some w)) := by
  simp only [Agrees, demands_iff hop]
  constructor
  · rintro ⟨P, hv, hw⟩
    exact hv.trans hw.symm
  · exact fun h => ⟨_, h, Iff.rfl⟩

/-! ### Equal literals -/

theorem exists_list_congr {P : List Value → Prop} (h : v.equal w = true)
    (hP : ∀ xs ys, Value.AlikeItems Number.Identical Number.SameRank xs ys → (P xs ↔ P ys)) :
    (∃ options, some v = some (.list options) ∧ P options) ↔
      ∃ options, some w = some (.list options) ∧ P options := by
  cases Value.equal_iff.1 h with
  | list hs => simp [hP _ _ hs]
  | _ => simp

theorem exists_equal_congr_right {xs ys : List Value}
    (h : Value.AlikeItems Number.Identical Number.SameRank xs ys) (u : Value) :
    (∃ x ∈ xs, u.equal x = true) ↔ ∃ y ∈ ys, u.equal y = true :=
  h.exists_iff fun _ _ hxy => by rw [Value.equal_congr_right (Value.equal_iff.2 hxy)]

theorem holds_congr_literal (hop : op ∈ Operator.equating) (h : v.equal w = true) (u : Value) :
    op.Holds (some v) (some u) ↔ op.Holds (some w) (some u) := by
  simp only [Operator.equating, List.mem_cons, List.not_mem_nil, or_false] at hop
  rcases hop with rfl | rfl | rfl | rfl | rfl | rfl
  · simp only [Operator.Holds, Option.getD_some, Value.equal_congr_right h]
  · simp only [Operator.Holds, Option.getD_some, Value.equal_congr_right h]
  · exact exists_list_congr h fun _ _ hs => exists_equal_congr_right hs u
  · refine exists_list_congr h fun _ _ hs => ?_
    have hnone := not_congr (exists_equal_congr_right hs u)
    simpa only [not_exists, not_and, Bool.not_eq_true] using hnone
  · simp only [Operator.Holds, Option.some.injEq, exists_eq_left', searchable_congr_right h,
      holding_congr_right h]
  · simp only [Operator.Holds, Option.some.injEq, exists_eq_left', searchable_congr_right h,
      holding_congr_right h]

/-! ### Respelled values -/

/-- An operator that looks for equal values finds a value again where the value itself stands. -/
theorem equal_of_agrees (hop : op ∈ Operator.equating)
    (h : ∀ other, Agrees op other other v w ∧ Agrees op v w other other) : v.equal w = true := by
  have hregex : op ≠ .regex := ne_of_mem_of_not_mem hop (by decide)
  have hvalue := (agrees_iff hregex).1 (h v).1
  have hoptions := (agrees_iff hregex).1 (h (.list [v])).1
  have hneedle := (agrees_iff hregex).1 (h (.list [v])).2
  simp only [Operator.equating, List.mem_cons, List.not_mem_nil, or_false] at hop
  rcases hop with rfl | rfl | rfl | rfl | rfl | rfl
  · exact Value.equal_symm (by simpa [Operator.Holds, Value.equal_self] using hvalue)
  · exact Value.equal_symm (by simpa [Operator.Holds, Value.equal_self] using hvalue)
  · exact Value.equal_symm (by simpa [Operator.Holds, Value.equal_self] using hoptions)
  · exact Value.equal_symm (by simpa [Operator.Holds, Value.equal_self] using hoptions)
  · simpa [Operator.Holds, Searchable, Holding, Value.equal_self] using hneedle
  · simpa [Operator.Holds, Searchable, Holding, Value.equal_self] using hneedle

/-- Each of the operators says the same of two spellings of a value, with every literal, and the
same of every value with the two as its literals, if and only if the numbers inside objects are
spelled in one way. -/
theorem agrees_iff_respelledOutside (hop : op ∈ Operator.equating) (h : v.Respelled w) :
    (∀ other, Agrees op other other v w ∧ Agrees op v w other other) ↔ v.RespelledOutside w := by
  have hregex : op ≠ .regex := ne_of_mem_of_not_mem hop (by decide)
  have hluhn : op ≠ .luhn := ne_of_mem_of_not_mem hop (by decide)
  rw [← h.equal_iff]
  constructor
  · exact equal_of_agrees hop
  · intro hequal other
    rw [agrees_iff hregex, agrees_iff hregex]
    exact ⟨holds_congr_value hregex hluhn hequal _, holds_congr_literal hop hequal other⟩

theorem respelled_two : Number.Respelled (.int 2) (.float (Binary64.ofInt 2)) := by
  refine .asFloat ⟨by decide, by decide⟩ ?_
  rw [Binary64.value_ofInt (by decide), Binary64.rounded_of_le (by decide)]

theorem agrees_iff_respelledOutside_list :
    (Value.list [.ofInt 2]).Respelled (.list [.number (.float (Binary64.ofInt 2))]) ∧
    ∀ other,
      Agrees .isIn other other (.list [.ofInt 2]) (.list [.number (.float (Binary64.ofInt 2))]) ∧
      Agrees .isIn (.list [.ofInt 2]) (.list [.number (.float (Binary64.ofInt 2))]) other other :=
  have htwo : (Value.list [.ofInt 2]).Respelled (.list [.number (.float (Binary64.ofInt 2))]) :=
    .list (.cons (.number respelled_two) .nil)
  ⟨htwo, (agrees_iff_respelledOutside (by decide) htwo).2
    (.list (.cons (.number respelled_two) .nil))⟩

/-- One field with the integer in place of the float, and the objects are no longer equal. -/
theorem equality_spells_fields :
    (Value.object [("x", .ofInt 2)]).Respelled
      (.object [("x", .number (.float (Binary64.ofInt 2)))]) ∧
    Demands .eq (.object [("x", .number (.float (Binary64.ofInt 2)))])
      (.object [("x", .ofInt 2)]) False ∧
    Demands .eq (.object [("x", .number (.float (Binary64.ofInt 2)))])
      (.object [("x", .number (.float (Binary64.ofInt 2)))]) True := by
  refine ⟨.object (.cons (.number respelled_two) .nil), ⟨_, rfl, ?_⟩, ⟨_, rfl, ?_⟩⟩
  · exact iff_of_false nofun not_false
  · exact iff_of_true (Value.equal_self _) trivial

end Agrees

end LossPrevention.Condition
