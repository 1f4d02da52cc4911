import LossPrevention.Binary64
import Mathlib

/-!
What a binary number is made of. The sign, the significand and the exponent give back the bits, and
so the number.
-/

namespace LossPrevention.Binary64

variable {x y : Float}

theorem fractionBits_lt (x : Float) : fractionBits x < 2 ^ 52 := Nat.mod_lt _ (by decide)

theorem toNat_toBits_eq (x : Float) :
    x.toBits.toNat =
      (if signBit x then 2 ^ 63 else 0) + exponentBits x * 2 ^ 52 + fractionBits x := by
  have hbits : x.toBits.toNat < 2 ^ 64 := x.toBits.toNat_lt
  have h63 : Nat.pow 2 63 = 2 ^ 63 := rfl
  have h52 : Nat.pow 2 52 = 2 ^ 52 := rfl
  have h11 : Nat.pow 2 11 = 2 ^ 11 := rfl
  simp only [signBit, exponentBits, fractionBits, h63, h52, h11, decide_eq_true_eq]
  split <;> omega

/-- Numbers with a leading bit and numbers without it are apart at every exponent. -/
theorem bits_of_parts (hsignificand : significand x = significand y)
    (hexponent : exponent x = exponent y) :
    exponentBits x = exponentBits y ∧ fractionBits x = fractionBits y := by
  have hx := fractionBits_lt x
  have hy := fractionBits_lt y
  have h52 : Nat.pow 2 52 = 2 ^ 52 := rfl
  simp only [significand, exponent, h52] at hsignificand hexponent
  by_cases hzero : exponentBits x = 0 <;> by_cases hzero' : exponentBits y = 0 <;>
    simp only [hzero, hzero', if_true, if_false] at hsignificand hexponent <;> omega

theorem eq_of_parts (hsign : signBit x = signBit y) (hsignificand : significand x = significand y)
    (hexponent : exponent x = exponent y) : x = y := by
  obtain ⟨hbits, hfraction⟩ := bits_of_parts hsignificand hexponent
  rw [← Float.toBits_inj, ← UInt64.toNat_inj, toNat_toBits_eq, toNat_toBits_eq, hsign, hbits,
    hfraction]

theorem exponent_of_significand (h : significand x = 0) : exponent x = -1074 := by
  have h52 : Nat.pow 2 52 = 2 ^ 52 := rfl
  rw [significand, h52] at h
  rw [exponent]
  split at h
  · rename_i hzero
    exact if_pos hzero
  · omega

end LossPrevention.Binary64
