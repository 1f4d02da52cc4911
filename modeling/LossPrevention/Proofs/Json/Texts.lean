import LossPrevention.Json.Printer
import LossPrevention.Json.Reader

/-!
Quoted texts in JSON. Each character reads back from what is written for it, and so does the text.
-/

namespace LossPrevention.Json.Reader

theorem hexValue?_hexDigit (n : Nat) : hexValue? (hexDigit n) = some (n % 16) := by
  have hdigits : ∀ m : Fin 16, hexValue? (Nat.digitChar m) = some m.val := by decide
  exact hdigits ⟨n % 16, Nat.mod_lt _ (by decide)⟩

/-- A control character reads back from its number. -/
theorem escape?_unicode {c : Char} (h : c.toNat < 0x20) (rest : List Char) :
    escape? ('u' :: '0' :: '0' :: hexDigit (c.toNat / 16) :: hexDigit c.toNat :: rest) =
      some (c, rest) := by
  have hzero : hexValue? '0' = some 0 := rfl
  have hvalue : ((0 * 16 + 0) * 16 + c.toNat / 16 % 16) * 16 + c.toNat % 16 = c.toNat := by omega
  have hlow : isLowSurrogate c.toNat = false := by
    simp [isLowSurrogate]
    omega
  have hhigh : isHighSurrogate c.toNat = false := by
    simp [isHighSurrogate]
    omega
  have hunit : unit? ('0' :: '0' :: hexDigit (c.toNat / 16) :: hexDigit c.toNat :: rest) =
      some (c.toNat, rest) := by
    simp only [unit?, hzero, hexValue?_hexDigit, bind, Option.bind, hvalue]
  simp only [escape?, unicode?, hunit, bind, Option.bind, hlow, hhigh, Bool.false_eq_true,
    if_false, Char.ofNat_toNat]

theorem quoted?_of_escape? {c : Char} {cs rest : List Char} (h : escape? cs = some (c, rest))
    (fuel : Nat) :
    quoted? (fuel + 1) ('\\' :: cs) = (quoted? fuel rest).map fun p => (c :: p.1, p.2) := by
  simp only [quoted?, h, bind, Option.bind]
  cases quoted? fuel rest <;> rfl

theorem quoted?_of_plain {c : Char} (hquote : c ≠ '"') (hslash : c ≠ '\\') (h : ¬ c.toNat < 0x20)
    (fuel : Nat) (rest : List Char) :
    quoted? (fuel + 1) (c :: rest) = (quoted? fuel rest).map fun p => (c :: p.1, p.2) := by
  rw [quoted?, if_neg h]
  · cases quoted? fuel rest <;> rfl
  · exact hquote
  · exact hslash

theorem quoted?_escaped (c : Char) (fuel : Nat) (rest : List Char) :
    quoted? (fuel + 1) (escaped c ++ rest) =
      (quoted? fuel rest).map fun p => (c :: p.1, p.2) := by
  rw [escaped]
  iterate 7
    split
    · rename_i hc
      subst hc
      exact quoted?_of_escape? rfl fuel
  split
  · rename_i hcontrol
    exact quoted?_of_escape? (escape?_unicode hcontrol rest) fuel
  · rename_i hquote hslash _ _ _ _ _ hcontrol
    exact quoted?_of_plain hquote hslash hcontrol fuel rest

theorem quoted?_append {s : List Char} {fuel : Nat} (h : s.length < fuel) (rest : List Char) :
    quoted? fuel (s.flatMap escaped ++ '"' :: rest) = some (s, rest) := by
  induction s generalizing fuel with
  | nil =>
      cases fuel with
      | zero => cases h
      | succ fuel => rfl
  | cons c s ih =>
      cases fuel with
      | zero => cases h
      | succ fuel =>
          rw [List.flatMap_cons, List.append_assoc, quoted?_escaped,
            ih (Nat.lt_of_succ_lt_succ h)]
          rfl

theorem escaped_ne_nil (c : Char) : escaped c ≠ [] := by
  rw [escaped]
  repeat' split
  all_goals exact List.cons_ne_nil _ _

theorem text?_append (s : String) (rest : List Char) :
    text? (s.toList.flatMap escaped ++ '"' :: rest) = some (s, rest) := by
  have hlength : s.toList.length ≤ (s.toList.flatMap escaped).length := by
    induction s.toList with
    | nil => exact Nat.le_refl _
    | cons c cs ih =>
        have hone : 1 ≤ (escaped c).length := List.length_pos_iff.2 (escaped_ne_nil c)
        rw [List.flatMap_cons, List.length_append, List.length_cons]
        omega
  rw [text?, quoted?_append (by rw [List.length_append]; omega)]
  simp [bind, Option.bind]

end LossPrevention.Json.Reader
