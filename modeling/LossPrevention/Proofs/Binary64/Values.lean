import LossPrevention.Proofs.Binary64.Integers
import LossPrevention.Proofs.Binary64.Parts

/-!
What binary numbers are worth. Main statements: the places of numbers are ordered as their values
are, the number nearest to an integer is worth the rounded integer, and so a number that is worth an
integer stands where that integer does.
-/

namespace LossPrevention.Binary64

/-- The value of a finite number. -/
def value (x : Float) : ℚ := (if signBit x then -1 else 1) * (significand x * 2 ^ exponent x)

/-! ### Values by their places -/

/-- How many times the least positive number is one. -/
def unitsOfOne : Nat := 2 ^ 1074

theorem unitsOfOne_cast : (unitsOfOne : ℚ) = 2 ^ (1074 : Int) := by
  rw [unitsOfOne, Nat.cast_pow, Nat.cast_ofNat, ← zpow_natCast]
  rfl

theorem unitsOfOne_pos : (0 : ℚ) < unitsOfOne := by
  rw [unitsOfOne_cast]
  exact zpow_pos two_pos _

theorem two_pow_mul_unitsOfOne (k : Nat) : 2 ^ k * unitsOfOne = 2 ^ (k + 1022) * 2 ^ 52 := by
  rw [unitsOfOne, ← Nat.pow_add, ← Nat.pow_add, Nat.add_assoc]

/-- What the bits below the sign are worth, in multiples of the least positive number. -/
def units (bits : Nat) : Nat :=
  if bits < 2 ^ 52 then bits else (2 ^ 52 + bits % 2 ^ 52) * 2 ^ (bits / 2 ^ 52 - 1)

theorem units_of_lt {b : Nat} (h : b < 2 ^ 52) : units b = b := if_pos h

theorem units_of_ge {b : Nat} (h : 2 ^ 52 ≤ b) :
    units b = (2 ^ 52 + b % 2 ^ 52) * 2 ^ (b / 2 ^ 52 - 1) := if_neg (Nat.not_lt.2 h)

theorem units_strictMono : StrictMono units := by
  refine strictMono_nat_of_lt_succ fun b => ?_
  rcases Nat.lt_or_ge (b + 1) (2 ^ 52) with hlt | hge
  · rw [units_of_lt hlt, units_of_lt (Nat.lt_of_succ_lt hlt)]
    exact Nat.lt_succ_self b
  rcases Nat.lt_or_ge b (2 ^ 52) with hlt | hge'
  · obtain rfl : b = 2 ^ 52 - 1 := by omega
    decide
  rw [units_of_ge hge, units_of_ge hge']
  rcases Nat.lt_or_ge (b % 2 ^ 52 + 1) (2 ^ 52) with hlt | hcarry
  · have hmod : (b + 1) % 2 ^ 52 = b % 2 ^ 52 + 1 := by omega
    have hdiv : (b + 1) / 2 ^ 52 = b / 2 ^ 52 := by omega
    rw [hmod, hdiv]
    exact Nat.mul_lt_mul_of_pos_right (by omega) (Nat.two_pow_pos _)
  · have hmod : (b + 1) % 2 ^ 52 = 0 := by omega
    have hdiv : (b + 1) / 2 ^ 52 - 1 = b / 2 ^ 52 - 1 + 1 := by omega
    have hbound := Nat.mod_lt b (Nat.two_pow_pos 52)
    rw [hmod, hdiv, Nat.add_zero]
    generalize b / 2 ^ 52 - 1 = k
    calc (2 ^ 52 + b % 2 ^ 52) * 2 ^ k < 2 ^ 53 * 2 ^ k :=
          Nat.mul_lt_mul_of_pos_right (by omega) (Nat.two_pow_pos k)
      _ = 2 ^ 52 * 2 ^ (k + 1) := by
          rw [← Nat.pow_add, ← Nat.pow_add, Nat.add_comm k 1, ← Nat.add_assoc]

/-- What stands at a place, in the same multiples. -/
def worth (r : Int) : Int := r.sign * units r.natAbs

theorem worth_natCast (b : Nat) : worth b = units b := by
  rcases Nat.eq_zero_or_pos b with rfl | hb
  · rfl
  · rw [worth, Int.sign_natCast_of_ne_zero (Nat.ne_of_gt hb), Int.natAbs_natCast, Int.one_mul]

theorem worth_neg (r : Int) : worth (-r) = -worth r := by
  rw [worth, worth, Int.sign_neg, Int.natAbs_neg, Int.neg_mul]

theorem worth_strictMono : StrictMono worth := by
  refine strictMono_int_of_lt_succ fun r => ?_
  rcases Int.lt_or_le r 0 with hneg | hnonneg
  · obtain ⟨b, rfl⟩ : ∃ b : Nat, r = -(b + 1 : Nat) := ⟨(-r - 1).toNat, by omega⟩
    have hsucc : -((b + 1 : Nat) : Int) + 1 = -(b : Nat) := by omega
    have hstep := units_strictMono (Nat.lt_add_one b)
    rw [hsucc, worth_neg, worth_neg, worth_natCast, worth_natCast]
    omega
  · obtain ⟨b, rfl⟩ := Int.eq_ofNat_of_zero_le hnonneg
    have hsucc : (b : Int) + 1 = (b + 1 : Nat) := rfl
    have hstep := units_strictMono (Nat.lt_add_one b)
    rw [hsucc, worth_natCast, worth_natCast]
    omega

section Value

variable {x y : Float}

def magnitudeBits (x : Float) : Nat := exponentBits x * 2 ^ 52 + fractionBits x

theorem rank_eq_magnitudeBits (x : Float) :
    rank x = if signBit x then -(magnitudeBits x : Int) else magnitudeBits x := by
  have hbits := toNat_toBits_eq x
  have h63 : Nat.pow 2 63 = 2 ^ 63 := rfl
  rw [rank, magnitudeBits, h63, hbits]
  cases signBit x with
  | false =>
      rw [if_neg Bool.false_ne_true, if_neg Bool.false_ne_true, if_neg Bool.false_ne_true,
        Nat.zero_add]
  | true =>
      rw [if_pos rfl, if_pos rfl, if_pos rfl, Nat.add_assoc, Nat.add_sub_cancel_left]

theorem units_magnitudeBits (x : Float) :
    (units (magnitudeBits x) : ℚ) = significand x * 2 ^ exponent x * unitsOfOne := by
  have hfraction := fractionBits_lt x
  have h52 : Nat.pow 2 52 = 2 ^ 52 := rfl
  rw [significand, exponent, magnitudeBits, h52, unitsOfOne_cast, mul_assoc,
    ← zpow_add₀ two_ne_zero]
  split
  · rename_i hzero
    rw [hzero, Nat.zero_mul, Nat.zero_add, units_of_lt hfraction, neg_add_cancel, zpow_zero,
      mul_one]
  · rename_i hpos
    have hmod : (exponentBits x * 2 ^ 52 + fractionBits x) % 2 ^ 52 = fractionBits x := by omega
    have hdiv : (exponentBits x * 2 ^ 52 + fractionBits x) / 2 ^ 52 = exponentBits x := by omega
    have hexponent : (exponentBits x : Int) - 1075 + 1074 = (exponentBits x - 1 : Nat) := by omega
    rw [units_of_ge (by omega), hmod, hdiv, hexponent, zpow_natCast]
    push_cast
    rfl

theorem value_eq (x : Float) : value x = worth (rank x) / unitsOfOne := by
  have hunits := units_magnitudeBits x
  rw [eq_div_iff unitsOfOne_pos.ne', rank_eq_magnitudeBits, value]
  cases signBit x with
  | false =>
      rw [if_neg Bool.false_ne_true, if_neg Bool.false_ne_true, worth_natCast, Int.cast_natCast,
        hunits, one_mul]
  | true =>
      rw [if_pos rfl, if_pos rfl, worth_neg, worth_natCast, Int.cast_neg, Int.cast_natCast, hunits,
        neg_one_mul, neg_mul]

/-- Places order numbers by their values. -/
theorem rank_lt_iff : rank x < rank y ↔ value x < value y := by
  rw [value_eq, value_eq, div_lt_div_iff_of_pos_right unitsOfOne_pos, Int.cast_lt,
    worth_strictMono.lt_iff_lt]

theorem rank_eq_iff : rank x = rank y ↔ value x = value y := by
  rw [value_eq, value_eq, div_left_inj' unitsOfOne_pos.ne', Int.cast_inj,
    worth_strictMono.injective.eq_iff]

/-! ### Integers -/

variable {n : Int} {a m : Nat}

theorem units_place (ha : 0 < a) : units (place a) = leading a * 2 ^ (a.log2 + 1022) := by
  obtain ⟨hleast, hmost⟩ := leading_bounds ha
  rw [place, if_neg (Nat.ne_of_gt ha), units_of_ge (by omega)]
  rcases Nat.lt_or_eq_of_le hmost with hlt | heq
  · have hmod : ((a.log2 + 1022) * 2 ^ 52 + leading a) % 2 ^ 52 = leading a - 2 ^ 52 := by omega
    have hdiv : ((a.log2 + 1022) * 2 ^ 52 + leading a) / 2 ^ 52 - 1 = a.log2 + 1022 := by omega
    rw [hmod, hdiv, Nat.add_sub_cancel' hleast]
  · have hmod : ((a.log2 + 1022) * 2 ^ 52 + 2 ^ 53) % 2 ^ 52 = 0 := by omega
    have hdiv : ((a.log2 + 1022) * 2 ^ 52 + 2 ^ 53) / 2 ^ 52 - 1 = a.log2 + 1022 + 1 := by omega
    rw [heq, hmod, hdiv]
    generalize a.log2 + 1022 = k
    ring

theorem worth_place (a : Nat) : worth (place a) = roundedNat a * unitsOfOne := by
  rcases Nat.eq_zero_or_pos a with rfl | ha
  · have hzero : roundedNat 0 = 0 := by decide
    rw [hzero, Nat.cast_zero, Int.zero_mul]
    rfl
  · have hunits : units (place a) = roundedNat a * unitsOfOne := by
      refine Nat.eq_of_mul_eq_mul_right (Nat.two_pow_pos 52) ?_
      calc units (place a) * 2 ^ 52 = leading a * (2 ^ a.log2 * unitsOfOne) := by
            rw [units_place ha, two_pow_mul_unitsOfOne, Nat.mul_assoc]
        _ = roundedNat a * 2 ^ 52 * unitsOfOne := by
            rw [roundedNat_eq_leading, Nat.mul_assoc]
        _ = roundedNat a * unitsOfOne * 2 ^ 52 := Nat.mul_right_comm ..
    rw [worth_natCast, hunits, Nat.cast_mul]

/-- The number nearest to an integer is worth the rounded integer. -/
theorem value_ofInt (h : n.natAbs < 2 ^ 64) : value (ofInt n) = rounded n := by
  rw [value_eq, div_eq_iff unitsOfOne_pos.ne']
  rcases Int.eq_nat_or_neg n with ⟨a, rfl | rfl⟩
  · rw [rank_natCast (by omega), worth_place, rounded_natCast]
    push_cast
    rfl
  · rw [rank_neg_natCast (by omega), worth_neg, worth_place, rounded_neg, rounded_natCast]
    push_cast
    rw [neg_mul]

theorem roundedNat_mul_two_pow (h : m < 2 ^ 53) (k : Nat) : roundedNat (m * 2 ^ k) = m * 2 ^ k := by
  rcases Nat.eq_zero_or_pos m with rfl | hm
  · rw [Nat.zero_mul, roundedNat_of_le (Nat.zero_le _)]
  · have hlog : m.log2 ≤ 52 := Nat.le_of_lt_succ ((Nat.log2_lt (Nat.ne_of_gt hm)).2 h)
    have hexcess : excess (m * 2 ^ k) ≤ k := by
      rw [excess, log2_mul_two_pow hm]
      omega
    rw [roundedNat]
    generalize excess (m * 2 ^ k) = e at hexcess ⊢
    have hsplit : m * 2 ^ (k - e) * 2 ^ e = m * 2 ^ k := by
      rw [Nat.mul_assoc, ← Nat.pow_add, Nat.sub_add_cancel hexcess]
    have hdigits := halfEven_mul_two_pow (m * 2 ^ (k - e)) 0 e
    rw [Nat.zero_add, halfEven_zero, hsplit] at hdigits
    rw [hdigits, hsplit]

theorem significand_lt (x : Float) : significand x < 2 ^ 53 := by
  have hfraction := fractionBits_lt x
  have h52 : Nat.pow 2 52 = 2 ^ 52 := rfl
  rw [significand, h52]
  split <;> omega

theorem natAbs_of_value (h : value x = n) : (n.natAbs : ℚ) = significand x * 2 ^ exponent x := by
  have hnonneg : (0 : ℚ) ≤ significand x * 2 ^ exponent x :=
    mul_nonneg (Nat.cast_nonneg _) (zpow_nonneg zero_le_two _)
  have hsign : |(if signBit x then -1 else 1 : ℚ)| = 1 := by
    split
    · rw [abs_neg, abs_one]
    · exact abs_one
  rw [Nat.cast_natAbs, Int.cast_abs, ← h, value, abs_mul, hsign, one_mul, abs_of_nonneg hnonneg]

/-- An integer that a number is worth needs no rounding. -/
theorem rounded_of_value (h : value x = n) : rounded n = n := by
  have hvalue := natAbs_of_value h
  have hround : roundedNat n.natAbs = n.natAbs := by
    rcases Int.eq_nat_or_neg (exponent x) with ⟨k, hk | hk⟩
    · rw [hk, zpow_natCast] at hvalue
      have hnat : n.natAbs = significand x * 2 ^ k := by exact_mod_cast hvalue
      rw [hnat, roundedNat_mul_two_pow (significand_lt x)]
    · rw [hk, zpow_neg, zpow_natCast, ← div_eq_mul_inv, eq_div_iff (pow_ne_zero _ two_ne_zero)]
        at hvalue
      have hnat : n.natAbs * 2 ^ k = significand x := by exact_mod_cast hvalue
      have hle := Nat.le_mul_of_pos_right n.natAbs (Nat.two_pow_pos k)
      have hlt := significand_lt x
      exact roundedNat_of_le (by omega)
  rw [rounded, hround, Int.sign_mul_natAbs]

theorem rank_eq_of_value (hn : n.natAbs < 2 ^ 64) (h : value x = n) : rank x = rank (ofInt n) := by
  rw [rank_eq_iff, value_ofInt hn, rounded_of_value h, h]

end Value

end LossPrevention.Binary64
