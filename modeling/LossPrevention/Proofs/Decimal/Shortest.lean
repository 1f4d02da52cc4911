import LossPrevention.Decimal.Shortest
import Mathlib.Algebra.Order.Field.Power
import Mathlib.Data.Nat.Cast.Order.Field
import Mathlib.Tactic.FieldSimp
import Mathlib.Tactic.Linarith
import Mathlib.Tactic.LinearCombination
import Mathlib.Tactic.NormNum
import Mathlib.Tactic.Positivity
import Mathlib.Tactic.Ring

/-!
The shortest decimal of a binary number is one of the decimals that the number is the nearest to.
Main statements: the search never runs out of digits, because at twenty of them the grid is finer
than the interval of the number, and what it takes lies in the interval; and the intervals of
different numbers have nothing in common, so the decimal belongs to one number only.
-/

namespace LossPrevention.Decimal.Shortest

/-! ### Powers of ten -/

theorem ten_zpow_pos (k : Int) : (0 : ℚ) < 10 ^ k := zpow_pos (by norm_num) k

theorem ten_zpow_of_neg {k : Int} (h : k < 0) : (10 : ℚ) ^ k * 10 ^ k.natAbs = 1 := by
  have habs : -((k.natAbs : Int)) = k := by omega
  rw [← zpow_natCast, ← zpow_add₀ (by norm_num), ← habs, Int.natAbs_neg, Int.natAbs_natCast,
    neg_add_cancel, zpow_zero]

theorem ten_zpow_of_nonneg {k : Int} (h : ¬ k < 0) : (10 : ℚ) ^ k = 10 ^ k.toNat := by
  rw [← zpow_natCast, Int.toNat_of_nonneg (not_lt.1 h)]

/-! ### Ratios -/

def Ratio.value (r : Ratio) : ℚ := r.num / r.den

theorem Ratio.den_scale_pos {r : Ratio} (h : 0 < r.den) (power : Int) :
    0 < (r.scale power).den := by
  rw [Ratio.scale]
  split
  · exact Nat.mul_pos h (Nat.pow_pos (by decide))
  · exact h

theorem Ratio.value_scale {r : Ratio} (h : 0 < r.den) (power : Int) :
    (r.scale power).value = r.value * 10 ^ power := by
  have hden : (r.den : ℚ) ≠ 0 := by exact_mod_cast h.ne'
  rw [Ratio.scale]
  split
  · rename_i hneg
    have hpow := ten_zpow_of_neg hneg
    have hne : (10 : ℚ) ^ power.natAbs ≠ 0 := by positivity
    simp only [Ratio.value, Nat.pow_eq, Nat.cast_mul, Nat.cast_pow, Nat.cast_ofNat]
    field_simp
    linear_combination (-(r.num : ℚ)) * hpow
  · rename_i hneg
    simp only [Ratio.value, Nat.pow_eq, Nat.cast_mul, Nat.cast_pow, Nat.cast_ofNat,
      ten_zpow_of_nonneg hneg]
    ring

/-- The whole part of a ratio. -/
theorem Ratio.div_le_value (r : Ratio) : ((r.num / r.den : Nat) : ℚ) ≤ r.value :=
  Nat.cast_div_le

theorem Ratio.value_lt_div_add_one {r : Ratio} (h : 0 < r.den) :
    r.value < ((r.num / r.den : Nat) : ℚ) + 1 := by
  have hden : (0 : ℚ) < r.den := by exact_mod_cast h
  rw [Ratio.value, div_lt_iff₀ hden]
  exact_mod_cast Nat.lt_mul_of_div_lt (Nat.lt_succ_self _) h

/-! ### The place of the first digit -/

theorem pow_digitCount_le {n : Nat} (h : 0 < n) : 10 ^ (digitCount n - 1) ≤ n := by
  rw [digitCount]
  by_cases hone : (Nat.toDigits 10 n).length - 1 = 0
  · rw [hone]
    exact h
  · rw [← Nat.not_lt, ← Nat.length_toDigits_le_iff (by decide) (Nat.pos_of_ne_zero hone)]
    omega

theorem digitCount_pos (n : Nat) : 0 < digitCount n := Nat.length_toDigits_pos

theorem one_le_leadingZeros {r : Ratio} (hden : 0 < r.den) {fuel : Nat}
    (h : 1 ≤ r.value * 10 ^ fuel) : 1 ≤ r.value * 10 ^ leadingZeros r fuel := by
  induction fuel generalizing r with
  | zero => exact h
  | succ fuel ih =>
      rw [leadingZeros]
      have hpos : (0 : ℚ) < r.den := by exact_mod_cast hden
      split
      · rename_i hle
        rw [pow_zero, mul_one, Ratio.value, one_le_div hpos]
        exact_mod_cast hle
      · have hvalue : (⟨r.num * 10, r.den⟩ : Ratio).value = r.value * 10 := by
          simp only [Ratio.value, Nat.cast_mul, Nat.cast_ofNat]
          ring
        rw [pow_succ'] at h ⊢
        rw [← mul_assoc, ← hvalue] at h ⊢
        exact ih hden h

theorem zpow_magnitude_le {r : Ratio} (hden : 0 < r.den) (h : 1 ≤ r.value * 10 ^ 400) :
    (10 : ℚ) ^ (magnitude r - 1) ≤ r.value := by
  rw [magnitude]
  split
  · rename_i hle
    have hpos : 0 < r.num / r.den := Nat.div_pos hle hden
    have hcount := digitCount_pos (r.num / r.den)
    have hexp : ((digitCount (r.num / r.den) : Int) - 1) =
        ((digitCount (r.num / r.den) - 1 : Nat) : Int) := by omega
    rw [hexp, zpow_natCast]
    refine le_trans ?_ r.div_le_value
    exact_mod_cast pow_digitCount_le hpos
  · have hone := one_le_leadingZeros hden h
    have hexp : (1 - (leadingZeros r 400 : Int) - 1) = -(leadingZeros r 400 : Int) := by omega
    rw [hexp, zpow_neg, zpow_natCast]
    exact (inv_le_iff_one_le_mul₀ (by positivity)).2 hone

/-! ### Intervals -/

namespace Interval

def low (i : Interval) : ℚ := i.lower / i.den

def mid (i : Interval) : ℚ := i.value / i.den

def high (i : Interval) : ℚ := i.upper / i.den

/-- The interval holds the number, with its ends if it is closed. -/
def Holds (i : Interval) (x : ℚ) : Prop :=
  if i.closed then i.low ≤ x ∧ x ≤ i.high else i.low < x ∧ x < i.high

theorem holds_of_lt {i : Interval} {x : ℚ} (hlow : i.low < x) (hhigh : x < i.high) : i.Holds x := by
  rw [Holds]
  split
  · exact ⟨hlow.le, hhigh.le⟩
  · exact ⟨hlow, hhigh⟩

theorem Holds.bounds {i : Interval} {x : ℚ} (h : i.Holds x) : i.low ≤ x ∧ x ≤ i.high := by
  rw [Holds] at h
  split at h
  · exact h
  · exact ⟨h.1.le, h.2.le⟩

theorem contains_iff {i : Interval} (hden : 0 < i.den) (c : Nat) (k : Int) :
    i.contains c k = true ↔ i.Holds (c * 10 ^ k) := by
  obtain ⟨up, down, hdown, hpow, hcontains⟩ : ∃ up down : Nat, 0 < down ∧
      (up : ℚ) = 10 ^ k * down ∧ (i.contains c k = true ↔
        if i.closed then i.lower * down ≤ c * up * i.den ∧ c * up * i.den ≤ i.upper * down
        else i.lower * down < c * up * i.den ∧ c * up * i.den < i.upper * down) := by
    by_cases hk : k < 0
    · refine ⟨1, 10 ^ k.natAbs, by positivity, ?_, ?_⟩
      · push_cast
        exact (ten_zpow_of_neg hk).symm
      · rw [contains]
        cases i.closed <;> simp [hk]
    · refine ⟨10 ^ k.toNat, 1, by decide, ?_, ?_⟩
      · push_cast
        rw [ten_zpow_of_nonneg hk, mul_one]
      · rw [contains]
        cases i.closed <;> simp [hk]
  have hd : (0 : ℚ) < i.den := by exact_mod_cast hden
  have hw : (0 : ℚ) < down := by exact_mod_cast hdown
  have hmid : ((c * up * i.den : Nat) : ℚ) = c * 10 ^ k * i.den * down := by
    push_cast
    rw [hpow]
    ring
  have hlow : i.lower * down ≤ c * up * i.den ↔ i.low ≤ c * 10 ^ k := by
    rw [low, div_le_iff₀ hd, ← mul_le_mul_iff_left₀ hw, ← hmid]
    exact_mod_cast Iff.rfl
  have hhigh : c * up * i.den ≤ i.upper * down ↔ c * 10 ^ k ≤ i.high := by
    rw [high, le_div_iff₀ hd, ← mul_le_mul_iff_left₀ hw, ← hmid]
    exact_mod_cast Iff.rfl
  have hlow' : i.lower * down < c * up * i.den ↔ i.low < c * 10 ^ k := by
    rw [low, div_lt_iff₀ hd, ← mul_lt_mul_iff_left₀ hw, ← hmid]
    exact_mod_cast Iff.rfl
  have hhigh' : c * up * i.den < i.upper * down ↔ c * 10 ^ k < i.high := by
    rw [high, lt_div_iff₀ hd, ← mul_lt_mul_iff_left₀ hw, ← hmid]
    exact_mod_cast Iff.rfl
  rw [hcontains, Holds, hlow, hhigh, hlow', hhigh']

/-! ### The search -/

theorem contains_of_pick? {i : Interval} {k : Int} {c : Nat} (h : i.pick? k = some c) :
    i.contains c k = true := by
  rw [pick?] at h
  split at h
  · rename_i hc hnext
    cases h
    split
    · exact hc
    split
    · exact hnext
    · rcases Nat.mod_two_eq_zero_or_one
        ((Ratio.scale ⟨i.value, i.den⟩ (-k)).num / (Ratio.scale ⟨i.value, i.den⟩ (-k)).den)
        with heven | hodd
      · rw [heven]
        exact hc
      · rw [hodd]
        exact hnext
  · cases h
    assumption
  · cases h
    assumption
  · cases h

/-- A grid as fine as the part of the interval below the value has a point in it. -/
theorem pick?_ne_none {i : Interval} (hden : 0 < i.den) {k : Int}
    (hfine : 10 ^ k ≤ i.mid - i.low) (hhigh : i.mid < i.high) : i.pick? k ≠ none := by
  have hpow := ten_zpow_pos k
  have hscaled : (Ratio.scale ⟨i.value, i.den⟩ (-k)).value = i.mid * (10 ^ k)⁻¹ := by
    rw [Ratio.value_scale hden, zpow_neg]
    rfl
  set r := Ratio.scale ⟨i.value, i.den⟩ (-k) with hr
  have hbelow : ((r.num / r.den : Nat) : ℚ) * 10 ^ k ≤ i.mid := by
    have hle := r.div_le_value
    rw [hscaled, ← div_eq_mul_inv, le_div_iff₀ hpow] at hle
    exact hle
  have habove : i.mid < (((r.num / r.den : Nat) : ℚ) + 1) * 10 ^ k := by
    have hpos : 0 < r.den := Ratio.den_scale_pos hden (-k)
    have hlt := Ratio.value_lt_div_add_one hpos
    rw [hscaled, ← div_eq_mul_inv, div_lt_iff₀ hpow] at hlt
    exact hlt
  have hcontains : i.contains (r.num / r.den) k = true :=
    (contains_iff hden _ k).2 (holds_of_lt (by linarith) (by linarith))
  rw [pick?, ← hr, hcontains]
  cases i.contains (r.num / r.den + 1) k <;> exact Option.some_ne_none _

end Interval

theorem value_trimZeros (fuel c : Nat) (k : Int) :
    ((trimZeros fuel c k).1 : ℚ) * 10 ^ (trimZeros fuel c k).2 = c * 10 ^ k := by
  induction fuel generalizing c k with
  | zero => rfl
  | succ fuel ih =>
      rw [trimZeros]
      split
      · rename_i hzero
        have hc : c = c / 10 * 10 := (Nat.div_mul_cancel (Nat.dvd_of_mod_eq_zero hzero.1)).symm
        rw [ih, zpow_add₀ (by norm_num), zpow_one]
        conv_rhs => rw [hc]
        push_cast
        ring
      · rfl

/-- The search takes a point of the interval as soon as there is one on a grid it comes to. -/
theorem holds_search {i : Interval} (hden : 0 < i.den) {e : Int} {fuel n : Nat}
    (h : i.pick? (e - (n + fuel : Nat)) ≠ none) :
    i.Holds ((search i e (fuel + 1) n).1 * 10 ^ (search i e (fuel + 1) n).2) := by
  induction fuel generalizing n with
  | zero =>
      obtain ⟨c, hc⟩ := Option.ne_none_iff_exists'.1 h
      rw [Nat.add_zero] at hc
      rw [search, hc]
      dsimp only
      rw [value_trimZeros]
      exact (Interval.contains_iff hden c _).1 (Interval.contains_of_pick? hc)
  | succ fuel ih =>
      rw [search]
      cases hpick : i.pick? (e - n) with
      | some c =>
          dsimp only
          rw [value_trimZeros]
          exact (Interval.contains_iff hden c _).1 (Interval.contains_of_pick? hpick)
      | none =>
          refine ih ?_
          rw [Nat.add_right_comm]
          exact h

/-! ### The intervals of binary numbers -/

/-- What the magnitude of a finite number other than zero is made of: only at the least exponent
may the leading bit be missing. -/
structure Fitting (m : Nat) (q : Int) : Prop where
  pos : 0 < m
  lt : m < 2 ^ 53
  least : -1074 ≤ q
  full : -1074 < q → 2 ^ 52 ≤ m

section Interval

variable {m : Nat} {q : Int}

theorem two_zpow_pos (q : Int) : (0 : ℚ) < 2 ^ q := zpow_pos (by norm_num) q

theorem den_interval_pos (m : Nat) (q : Int) : 0 < (interval m q).den := by
  have hdown : 0 < if q < 0 then Nat.pow 2 q.natAbs else 1 := by
    split
    · exact Nat.pow_pos (by decide)
    · decide
  exact Nat.mul_pos (by decide) hdown

/-- A quarter of the unit of the number is the measure of its interval. -/
theorem div_den_interval (n : Nat) (q : Int) :
    ((n * (if q < 0 then 1 else Nat.pow 2 q.toNat) : Nat) : ℚ) /
      ((4 * (if q < 0 then Nat.pow 2 q.natAbs else 1) : Nat) : ℚ) = n * 2 ^ (q - 2) := by
  have hquarter : (2 : ℚ) ^ (q - 2) = 2 ^ q / 4 := by
    rw [zpow_sub₀ (by norm_num)]
    norm_num
  rw [hquarter]
  split
  · rename_i hneg
    have habs : q = -(q.natAbs : Int) := by omega
    have hpow : (2 : ℚ) ^ q = ((2 : ℚ) ^ q.natAbs)⁻¹ := by
      conv_lhs => rw [habs]
      rw [zpow_neg, zpow_natCast]
    rw [hpow]
    push_cast [Nat.pow_eq]
    field_simp
  · rename_i hneg
    have hpow : (2 : ℚ) ^ q = 2 ^ q.toNat := by
      rw [← zpow_natCast, Int.toNat_of_nonneg (not_lt.1 hneg)]
    rw [hpow]
    push_cast [Nat.pow_eq]
    ring

/-- Quarters of the unit up to the lower end. -/
def lowQuarters (m : Nat) (q : Int) : Nat :=
  if m = Nat.pow 2 52 ∧ -1074 < q then 4 * m - 1 else 4 * m - 2

theorem low_interval (m : Nat) (q : Int) :
    (interval m q).low = lowQuarters m q * 2 ^ (q - 2) := div_den_interval _ q

theorem mid_interval (m : Nat) (q : Int) : (interval m q).mid = (4 * m : Nat) * 2 ^ (q - 2) :=
  div_den_interval _ q

theorem high_interval (m : Nat) (q : Int) :
    (interval m q).high = (4 * m + 2 : Nat) * 2 ^ (q - 2) := div_den_interval _ q

theorem closed_interval (m : Nat) (q : Int) : (interval m q).closed = decide (m % 2 = 0) := rfl

theorem lowQuarters_bounds (h : 0 < m) (q : Int) :
    4 * m - 2 ≤ lowQuarters m q ∧ lowQuarters m q + 1 ≤ 4 * m := by
  rw [lowQuarters]
  split <;> omega

theorem two_pow_le_ten_pow : (2 : ℚ) ^ 1076 ≤ 10 ^ 400 :=
  calc (2 : ℚ) ^ 1076 ≤ 2 ^ (13 * 100) := pow_le_pow_right₀ (by norm_num) (by decide)
    _ = (2 ^ 13) ^ 100 := pow_mul ..
    _ ≤ (10 ^ 4) ^ 100 := pow_le_pow_left₀ (by norm_num) (by norm_num) 100
    _ = 10 ^ 400 := (pow_mul ..).symm

theorem zpow_magnitude_le_mid (h : Fitting m q) :
    (10 : ℚ) ^ (magnitude ⟨(interval m q).value, (interval m q).den⟩ - 1) ≤
      (interval m q).mid := by
  refine zpow_magnitude_le (r := ⟨(interval m q).value, (interval m q).den⟩)
    (den_interval_pos m q) ?_
  have hmid : Ratio.value ⟨(interval m q).value, (interval m q).den⟩ = (interval m q).mid := rfl
  have hpos : (1 : ℚ) ≤ (4 * m : Nat) := by
    have hm := h.pos
    exact_mod_cast (by omega : 1 ≤ 4 * m)
  have hleast : (2 : ℚ) ^ (-1076 : Int) ≤ 2 ^ (q - 2) :=
    zpow_le_zpow_right₀ (by norm_num) (by linarith [h.least])
  rw [hmid, mid_interval]
  calc (1 : ℚ) ≤ 2 ^ (-1076 : Int) * 10 ^ 400 := by
        rw [zpow_neg, zpow_ofNat, inv_mul_eq_div, one_le_div (by positivity)]
        exact two_pow_le_ten_pow
    _ ≤ 2 ^ (q - 2) * 10 ^ 400 := by gcongr
    _ ≤ (4 * m : Nat) * 2 ^ (q - 2) * 10 ^ 400 := by
      gcongr
      exact le_mul_of_one_le_left (two_zpow_pos _).le hpos

/-- The shortest decimal of a number lies in its interval. -/
theorem holds_decimal (h : Fitting m q) :
    (interval m q).Holds ((decimal m q).1 * 10 ^ (decimal m q).2) := by
  have hquarter := two_zpow_pos (q - 2)
  obtain ⟨hlow, hlow'⟩ := lowQuarters_bounds h.pos q
  refine holds_search (den_interval_pos m q) (Interval.pick?_ne_none (den_interval_pos m q) ?_ ?_)
  · have hfirst := zpow_magnitude_le_mid h
    have hgap : (1 : ℚ) * 2 ^ (q - 2) ≤ (interval m q).mid - (interval m q).low := by
      rw [mid_interval, low_interval, ← sub_mul]
      gcongr
      rw [le_sub_iff_add_le]
      exact_mod_cast (by omega : 1 + lowQuarters m q ≤ 4 * m)
    have hmid : (interval m q).mid ≤ 2 ^ 55 * 2 ^ (q - 2) := by
      rw [mid_interval]
      gcongr
      have hm := h.lt
      exact_mod_cast (by omega : 4 * m ≤ 2 ^ 55)
    -- Nineteen further digits are worth more than the 55 bits that the value has in quarters.
    have hsplit (e : Int) : (10 : ℚ) ^ (e - (1 + 19 : Nat)) = 10 ^ (e - 1) * (10 ^ 19)⁻¹ := by
      rw [← zpow_natCast, ← zpow_neg, ← zpow_add₀ (by norm_num)]
      congr 1
      omega
    rw [hsplit]
    calc _ ≤ 2 ^ 55 * 2 ^ (q - 2) * ((10 : ℚ) ^ 19)⁻¹ := by
          gcongr
          exact hfirst.trans hmid
      _ ≤ 1 * 2 ^ (q - 2) := by
          rw [mul_right_comm]
          gcongr
          norm_num
      _ ≤ _ := hgap
  · rw [mid_interval, high_interval]
    gcongr
    exact_mod_cast Nat.lt_add_of_pos_right (by decide)

theorem pos_of_holds (h : Fitting m q) {x : ℚ} (hx : (interval m q).Holds x) : 0 < x := by
  refine lt_of_lt_of_le ?_ hx.bounds.1
  have hm := h.pos
  have hlow := (lowQuarters_bounds hm q).1
  rw [low_interval]
  exact mul_pos (by exact_mod_cast (by omega : 0 < lowQuarters m q)) (two_zpow_pos _)

theorem lt_of_holds_of_odd (hodd : m % 2 = 1) {x : ℚ} (hx : (interval m q).Holds x) :
    (interval m q).low < x ∧ x < (interval m q).high := by
  have hopen : (interval m q).closed = false := by
    rw [closed_interval, hodd]
    rfl
  rw [Interval.Holds, hopen] at hx
  exact hx

end Interval

/-! ### Intervals of different numbers -/

section Different

variable {m n : Nat} {q r : Int}

/-- Of one exponent, where two intervals meet one of the numbers is odd. -/
theorem high_le_low_of_lt (hlt : m < n) (q : Int) :
    (interval m q).high ≤ (interval n q).low ∧
      ((interval m q).high = (interval n q).low → m % 2 = 1 ∨ n % 2 = 1) := by
  have hunit := two_zpow_pos (q - 2)
  have hquarters := (lowQuarters_bounds (Nat.zero_lt_of_lt hlt) q).1
  rw [high_interval, low_interval]
  constructor
  · gcongr
    omega
  · intro heq
    have hends : 4 * m + 2 = lowQuarters n q := by exact_mod_cast mul_right_cancel₀ hunit.ne' heq
    omega

/-- With a greater exponent the lower end is behind all significands of the lesser one. -/
theorem le_low_of_exponent_lt (hq : -1074 ≤ q) (hn : Fitting n r) (hlt : q < r) :
    ((2 ^ 55 - 2 : Nat) : ℚ) * 2 ^ (q - 2) ≤ (interval n r).low := by
  have hleast := lt_of_le_of_lt hq hlt
  have hfull := hn.full hleast
  have hquarters : 2 ^ 54 - 1 ≤ lowQuarters n r := by
    have htwo : Nat.pow 2 52 = 2 ^ 52 := rfl
    rw [lowQuarters]
    split
    · omega
    · rename_i hne
      have hne' : n ≠ 2 ^ 52 := fun heq => hne ⟨heq, hleast⟩
      omega
  have hdouble : 2 * (2 : ℚ) ^ (q - 2) ≤ 2 ^ (r - 2) := by
    rw [← zpow_one_add₀ (by norm_num)]
    exact zpow_le_zpow_right₀ (by norm_num) (by omega)
  rw [low_interval]
  calc ((2 ^ 55 - 2 : Nat) : ℚ) * 2 ^ (q - 2)
      = ((2 ^ 54 - 1 : Nat) : ℚ) * (2 * 2 ^ (q - 2)) := by norm_num; ring
    _ ≤ (lowQuarters n r : ℚ) * 2 ^ (r - 2) := by gcongr

theorem high_le_low_of_exponent_lt (hm : Fitting m q) (hn : Fitting n r) (hlt : q < r) :
    (interval m q).high ≤ (interval n r).low ∧
      ((interval m q).high = (interval n r).low → m % 2 = 1) := by
  have hunit := two_zpow_pos (q - 2)
  have hmlt := hm.lt
  have hlow := le_low_of_exponent_lt hm.least hn hlt
  rw [high_interval]
  constructor
  · refine le_trans ?_ hlow
    gcongr
    omega
  · intro heq
    rw [← heq] at hlow
    -- The greatest significand of all, which is odd.
    have hends : 2 ^ 55 - 2 ≤ 4 * m + 2 := by exact_mod_cast le_of_mul_le_mul_right hlow hunit
    omega

/-- Intervals of different numbers have nothing in common: where two meet, one of the numbers is
odd, and that one has not the end. -/
theorem not_holds_of_lt (hm : Fitting m q) (hn : Fitting n r) (hlt : q < r ∨ q = r ∧ m < n) {x : ℚ}
    (hx : (interval m q).Holds x) : ¬ (interval n r).Holds x := by
  intro hx'
  obtain ⟨hle, hmeet⟩ : (interval m q).high ≤ (interval n r).low ∧
      ((interval m q).high = (interval n r).low → m % 2 = 1 ∨ n % 2 = 1) := by
    rcases hlt with hlt | ⟨rfl, hlt⟩
    · obtain ⟨hle, hmeet⟩ := high_le_low_of_exponent_lt hm hn hlt
      exact ⟨hle, fun heq => .inl (hmeet heq)⟩
    · exact high_le_low_of_lt hlt q
  have hhigh := hx.bounds.2
  have hlow := hx'.bounds.1
  rcases hmeet (le_antisymm hle (hlow.trans hhigh)) with hodd | hodd
  · exact absurd (hle.trans hlow) (not_le.2 (lt_of_holds_of_odd hodd hx).2)
  · exact absurd (hhigh.trans hle) (not_le.2 (lt_of_holds_of_odd hodd hx').1)

/-- A decimal belongs to one number at most. -/
theorem eq_of_holds (hm : Fitting m q) (hn : Fitting n r) {x : ℚ}
    (hx : (interval m q).Holds x) (hx' : (interval n r).Holds x) : m = n ∧ q = r := by
  rcases lt_trichotomy q r with hlt | rfl | hlt
  · exact absurd hx' (not_holds_of_lt hm hn (.inl hlt) hx)
  · rcases lt_trichotomy m n with hlt | rfl | hlt
    · exact absurd hx' (not_holds_of_lt hm hn (.inr ⟨rfl, hlt⟩) hx)
    · exact ⟨rfl, rfl⟩
    · exact absurd hx (not_holds_of_lt hn hm (.inr ⟨rfl, hlt⟩) hx')
  · exact absurd hx (not_holds_of_lt hn hm (.inl hlt) hx')

end Different

end LossPrevention.Decimal.Shortest
