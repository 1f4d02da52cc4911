import LossPrevention.Binary64
import Mathlib

/-!
Numbers that are finite: the sign does not matter, and no integer of 64 bits is too large. Both are
read off the logical model of the numbers, where a number is unpacked into a sign, a mantissa and an
exponent and packed again.
-/

namespace LossPrevention.Binary64

open Float.Model Float.Model.UnpackedFloat

/-! ### Unpacked numbers -/

/-- A number that does not become infinite when it is packed. -/
inductive Moderate : UnpackedFloat → Prop
  | zero (s : Sign) : Moderate (.zero s)
  | finite {s : Sign} {m : Nat} {e : Int} {hm : 0 < m} (he : e ≤ 971) : Moderate (.finite s m e hm)

def exponentField (x : Float) : BitVec Format.binary64.exponentBits :=
  unpackExponent x.toModel.toBits.toBitVec

theorem exponentBits_eq (x : Float) :
    exponentBits x = (exponentField x).toNat := by
  rw [exponentBits, exponentField, unpackExponent, BitVec.toNat_cast, BitVec.extractLsb_toNat,
    Nat.shiftRight_eq_div_pow]
  rfl

theorem isFinite_iff {x : Float} :
    isFinite x = true ↔ exponentField x ≠ -1#_ := by
  rw [isFinite, exponentBits_eq, decide_eq_true_iff, ne_eq, ne_eq, ← BitVec.toNat_inj]
  rfl

theorem unpackExponent_pack {u : UnpackedFloat} (h : Moderate u) :
    unpackExponent (UnpackedFloat.pack Format.binary64 u) ≠ -1#_ := by
  cases h with
  | zero s =>
      rw [UnpackedFloat.pack, packedZero, unpackExponent_packComponents]
      decide
  | finite he =>
      have hbias : Format.binary64.exponentBias = 1023 := by decide
      simp only [UnpackedFloat.pack, hbias]
      rw [if_neg (by omega)]
      split
      · rw [unpackExponent_packComponents, ne_eq, ← BitVec.toNat_inj, BitVec.toNat_ofNat,
          Nat.mod_eq_of_lt (by omega)]
        have hones : (-1#11 : BitVec 11).toNat = 2047 := by decide
        intro heq
        have hlarge := heq.trans hones
        omega
      · rw [unpackExponent_packComponents]
        decide

theorem isFinite_ofModel_pack {u : UnpackedFloat} (h : Moderate u) :
    isFinite (Float.ofModel (Float.Model.pack u)) = true :=
  isFinite_iff.2 (unpackExponent_pack h)

theorem moderate_neg {u : UnpackedFloat} (h : Moderate u) : Moderate u.neg := by
  cases h with
  | zero s => exact .zero _
  | finite he => exact .finite he

theorem moderate_unpack {x : Float} (h : isFinite x = true) : Moderate x.toModel.unpack := by
  have hexponent := isFinite_iff.1 h
  have hbias : Format.binary64.exponentBias = 1023 := by decide
  have hlt : (exponentField x).toNat < 2047 := by
    have hne : (exponentField x).toNat ≠ 2047 :=
      fun heq => hexponent (BitVec.eq_of_toNat_eq heq)
    have hsize : (exponentField x).toNat < 2048 :=
      BitVec.isLt _
    omega
  have hfield : @unpackExponent Format.binary64 x.toModel.toBits.toBitVec = exponentField x := rfl
  simp only [Float.Model.unpack, UnpackedFloat.unpack, hbias, hfield]
  rw [if_neg hexponent]
  split
  · split
    · exact .zero _
    · rename_i hzero _
      have hnat : (exponentField x).toNat = 0 :=
        congrArg BitVec.toNat hzero
      exact .finite (by omega)
  · exact .finite (by omega)

theorem isFinite_negate {x : Float} (h : isFinite x = true) : isFinite (negate x) = true :=
  isFinite_ofModel_pack (moderate_neg (moderate_unpack h))

/-! ### Integers -/

theorem mantissa_shiftRight_le (em : ExtendedMantissa) (n : Nat) :
    (em >>> n).mantissa ≤ em.mantissa := by
  induction n with
  | zero => exact Nat.le_refl _
  | succ n ih => exact Nat.le_trans (Nat.div_le_self _ _) ih

theorem roundToNearestEven_le (m : Nat) (a : Accuracy) : a.roundToNearestEven m ≤ m + 1 := by
  cases a with
  | exact => exact Nat.le_succ m
  | inexact o =>
      cases o <;> simp only [Accuracy.roundToNearestEven] <;> omega

theorem targetExponent_eq (t : Int) : Format.binary64.targetExponent t = max (t - 53) (-1074) := by
  simp only [Format.targetExponent]
  rfl

/-- Rounding shifts the exponent twice, each time by no more than the bits of the mantissa. -/
theorem moderate_roundWithAccuracy {s : Sign} {m : Nat} {e : Int} (hm : m < 2 ^ 200)
    (he : e ≤ 0) : Moderate (roundWithAccuracy Format.binary64 s m e .exact) := by
  have hbits {n : Nat} (h : n < 2 ^ 201) : n.log2 < 201 := by
    rcases Nat.eq_zero_or_pos n with rfl | hn
    · decide
    · exact (Nat.log2_lt (Nat.pos_iff_ne_zero.1 hn)).2 h
  have hrounded (k : Nat) : (ExtendedMantissa.ofMantissaAndAccuracy m .exact >>>
      k).roundedMantissa.log2 < 201 := by
    refine hbits ?_
    have hshift := mantissa_shiftRight_le (ExtendedMantissa.ofMantissaAndAccuracy m .exact) k
    have hround := roundToNearestEven_le
      (ExtendedMantissa.ofMantissaAndAccuracy m .exact >>> k).mantissa
      (ExtendedMantissa.ofMantissaAndAccuracy m .exact >>> k).accuracy
    have hmantissa : (ExtendedMantissa.ofMantissaAndAccuracy m .exact).mantissa = m := rfl
    exact Nat.lt_of_le_of_lt hround (by omega)
  have hfirst := hrounded (max ((m.log2 : Int) + 1 + e - 53) (-1074) - e).toNat
  have hlog := hbits (Nat.lt_trans hm (by decide))
  simp only [roundWithAccuracy, shiftToTargetExponent, shiftToExponent, totalExponent,
    targetExponent_eq]
  split
  · exact .zero s
  · exact .finite (by omega)

theorem isFinite_ofInt_zero : isFinite (ofInt 0) = true := by decide +kernel

theorem ofInt_eq {n : Nat} (h : 2 ^ 53 ≤ n) :
    ofInt n =
      Float.ofModel (Float.Model.pack (UnpackedFloat.ofScientific Format.binary64 n 0)) := by
  have hofInt : ofInt n = Float.ofScientific n false 0 := rfl
  have hlarge : ¬ (n < 2 ^ 53 ∧ 0 ≤ 22) := fun hsmall => Nat.not_lt.2 h hsmall.1
  rw [hofInt, Float.ofScientific, dif_neg hlarge]
  rfl

theorem ofScientific_eq {n : Nat} (h : n ≠ 0) :
    UnpackedFloat.ofScientific Format.binary64 n 0 =
      roundWithAccuracy Format.binary64 (.positive * .positive) (n <<< 53 * 1) (-53 + 0)
        .exact := by
  have hhigh : ¬ (0 : Int) > 2 ^ Format.binary64.exponentBits := by decide
  have hlow : ¬ (0 : Int) < -((2 ^ Format.binary64.exponentBits : Int) + n.log2) := by
    have hbits : (2 ^ Format.binary64.exponentBits : Int) = 2048 := by decide
    omega
  rw [UnpackedFloat.ofScientific, dif_neg h, if_neg hhigh, if_neg hlow, if_pos (by decide)]
  rfl

theorem isFinite_ofInt {n : Nat} (h : 2 ^ 53 ≤ n) (h' : n < 2 ^ 64) :
    isFinite (ofInt n) = true := by
  have hmantissa : n <<< 53 * 1 < 2 ^ 200 := by
    rw [Nat.mul_one, Nat.shiftLeft_eq]
    calc n * 2 ^ 53 < 2 ^ 64 * 2 ^ 53 := Nat.mul_lt_mul_of_pos_right h' (by decide)
      _ < 2 ^ 200 := by decide
  have hmoderate := moderate_roundWithAccuracy (s := .positive * .positive) hmantissa
    (show (-53 + 0 : Int) ≤ 0 by decide)
  have hne : n ≠ 0 := by omega
  rw [ofInt_eq h, ofScientific_eq hne]
  exact isFinite_ofModel_pack hmoderate

end LossPrevention.Binary64
