import LossPrevention.Proofs.Json.Numerals

/-!
Compact JSON text has no control characters. So it stays on one line, and lines of it are told
apart again.
-/

namespace LossPrevention.Json

/-- No control character. -/
def Printed (cs : List Char) : Prop := ∀ c ∈ cs, 0x20 ≤ c.toNat

theorem printed_nil : Printed [] := nofun

@[simp] theorem printed_cons_iff {c : Char} {cs : List Char} :
    Printed (c :: cs) ↔ 0x20 ≤ c.toNat ∧ Printed cs := List.forall_mem_cons

@[simp] theorem printed_append_iff {cs ds : List Char} :
    Printed (cs ++ ds) ↔ Printed cs ∧ Printed ds := List.forall_mem_append

theorem Numeric.printed {cs : List Char} (h : Numeric cs) : Printed cs := by
  intro c hc
  have hnumeral := h c hc
  simp only [isNumeral, Bool.or_eq_true, decide_eq_true_eq] at hnumeral
  rcases hnumeral with (((hdigit | rfl) | rfl) | rfl) | rfl
  · exact Nat.le_trans (by decide) (Char.isDigit_iff_toNat.1 hdigit).1
  all_goals decide

theorem printed_number (n : Number) : Printed n.chars := by
  cases n with
  | int n => exact (numeric_intChars n).printed
  | float x =>
      rw [Number.chars]
      split
      · exact (numeric_floatChars x).printed
      · simp [printed_nil]

/-! ### Texts -/

theorem printed_escaped (c : Char) : Printed (escaped c) := by
  have hhex (n : Nat) : 0x20 ≤ (hexDigit n).toNat := by
    have hdigits : ∀ m : Fin 16, 0x20 ≤ (Nat.digitChar m).toNat := by decide
    exact hdigits ⟨n % 16, Nat.mod_lt _ (by decide)⟩
  rw [escaped]
  repeat' split
  all_goals simp [hhex, printed_nil]
  omega

theorem printed_text (s : String) : Printed (textChars s) := by
  have hbody : Printed (s.toList.flatMap escaped) := by
    intro c hc
    obtain ⟨d, -, hd⟩ := List.mem_flatMap.1 hc
    exact printed_escaped d c hd
  simp [textChars, hbody, printed_nil]

/-! ### Values -/

mutual

theorem Value.printed_chars : ∀ v : Value, Printed v.chars
  | .null | .bool true | .bool false | .list [] | .object [] => by simp [chars, printed_nil]
  | .number n => printed_number n
  | .text s => printed_text s
  | .list (x :: xs) => by simp [chars, printed_chars x, printed_itemChars xs]
  | .object ((k, v) :: fs) => by
      simp [chars, printed_text k, printed_chars v, printed_fieldChars fs]

theorem Value.printed_itemChars : ∀ xs : List Value, Printed (itemChars xs)
  | [] => by simp [itemChars, printed_nil]
  | x :: xs => by simp [itemChars, printed_chars x, printed_itemChars xs]

theorem Value.printed_fieldChars : ∀ fs : List (String × Value), Printed (fieldChars fs)
  | [] => by simp [fieldChars, printed_nil]
  | (k, v) :: fs => by simp [fieldChars, printed_text k, printed_chars v, printed_fieldChars fs]

end

end LossPrevention.Json
