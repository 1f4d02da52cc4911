import LossPrevention.Proofs.Binary64.Finite

/-!
Rounding of integers. A number of 64 bits has 53 digits in base two, so of a larger integer the
digits behind those are rounded away, to the nearest and in the middle to the even one.
-/

namespace LossPrevention.Binary64

/-- `m / 2 ^ k` rounded to the nearest integer, in the middle between two to the even one. -/
def halfEven (m k : Nat) : Nat :=
  if 2 * (m % 2 ^ k) < 2 ^ k ∨ 2 * (m % 2 ^ k) = 2 ^ k ∧ m / 2 ^ k % 2 = 0 then m / 2 ^ k
  else m / 2 ^ k + 1

/-- How many digits there are behind the leading 53. -/
def excess (n : Nat) : Nat := n.log2 - 52

/-- The integer without the digits behind the leading 53. -/
def roundedNat (n : Nat) : Nat := halfEven n (excess n) * 2 ^ excess n

def rounded (n : Int) : Int := n.sign * roundedNat n.natAbs

/-! ### Rounding off some digits -/

section HalfEven

variable {m n k : Nat}

theorem halfEven_bounds (m k : Nat) : m / 2 ^ k ≤ halfEven m k ∧ halfEven m k ≤ m / 2 ^ k + 1 := by
  rw [halfEven]
  split <;> omega

@[simp] theorem halfEven_zero (m : Nat) : halfEven m 0 = m := by
  simp [halfEven, Nat.mod_one]

theorem halfEven_mono (h : m ≤ n) (k : Nat) : halfEven m k ≤ halfEven n k := by
  have hq := Nat.div_le_div_right (c := 2 ^ k) h
  rcases Nat.lt_or_eq_of_le hq with hlt | heq
  · have hm := (halfEven_bounds m k).2
    have hn := (halfEven_bounds n k).1
    omega
  · have hr : m % 2 ^ k ≤ n % 2 ^ k := by
      have hdiv := Nat.div_add_mod m (2 ^ k)
      have hdiv' := Nat.div_add_mod n (2 ^ k)
      rw [heq] at hdiv
      omega
    simp only [halfEven, heq]
    split <;> split <;> omega

/-- Digits that are zero can be left out. -/
theorem halfEven_mul_two_pow (m k j : Nat) : halfEven (m * 2 ^ j) (k + j) = halfEven m k := by
  have hpos : 0 < 2 ^ j := Nat.two_pow_pos j
  have hdiv : m * 2 ^ j / 2 ^ (k + j) = m / 2 ^ k := by
    rw [Nat.pow_add, Nat.mul_div_mul_right _ _ hpos]
  have hmod : m * 2 ^ j % 2 ^ (k + j) = m % 2 ^ k * 2 ^ j := by
    rw [Nat.pow_add, Nat.mul_mod_mul_right]
  have hlt : 2 * (m % 2 ^ k * 2 ^ j) < 2 ^ (k + j) ↔ 2 * (m % 2 ^ k) < 2 ^ k := by
    rw [Nat.pow_add, ← Nat.mul_assoc, Nat.mul_lt_mul_right hpos]
  have heq : 2 * (m % 2 ^ k * 2 ^ j) = 2 ^ (k + j) ↔ 2 * (m % 2 ^ k) = 2 ^ k := by
    rw [Nat.pow_add, ← Nat.mul_assoc, Nat.mul_left_inj (Nat.ne_of_gt hpos)]
  simp only [halfEven, hdiv, hmod, hlt, heq]

/-- The error is no more than half of what a unit of the result stands for. -/
theorem halfEven_error (m k : Nat) :
    2 * (halfEven m k * 2 ^ k) ≤ 2 * m + 2 ^ k ∧ 2 * m ≤ 2 * (halfEven m k * 2 ^ k) + 2 ^ k := by
  have hdiv := Nat.div_add_mod' m (2 ^ k)
  have hlt := Nat.mod_lt m (Nat.two_pow_pos k)
  rw [halfEven]
  split
  · omega
  · rw [Nat.add_mul, Nat.one_mul]
    omega

end HalfEven

/-! ### The leading digits -/

section Leading

variable {n m : Nat}

theorem log2_bounds (h : 0 < n) : 2 ^ n.log2 ≤ n ∧ n < 2 ^ (n.log2 + 1) :=
  ⟨Nat.log2_self_le (Nat.pos_iff_ne_zero.1 h), Nat.lt_log2_self⟩

/-- The leading 53 digits as a number, or that number's successor. -/
def leading (n : Nat) : Nat := halfEven (n * 2 ^ 52) n.log2

theorem leading_bounds (h : 0 < n) : 2 ^ 52 ≤ leading n ∧ leading n ≤ 2 ^ 53 := by
  obtain ⟨hlow, hhigh⟩ := log2_bounds h
  have hpos := Nat.two_pow_pos n.log2
  obtain ⟨hfloor, hceil⟩ := halfEven_bounds (n * 2 ^ 52) n.log2
  constructor
  · refine Nat.le_trans ((Nat.le_div_iff_mul_le hpos).2 ?_) hfloor
    rw [Nat.mul_comm]
    exact Nat.mul_le_mul_right _ hlow
  · refine Nat.le_trans hceil (Nat.succ_le_of_lt ((Nat.div_lt_iff_lt_mul hpos).2 ?_))
    have hpow : 2 ^ 53 * 2 ^ n.log2 = 2 ^ (n.log2 + 1) * 2 ^ 52 := by
      rw [← Nat.pow_add, ← Nat.pow_add]
      congr 1
      omega
    rw [hpow]
    exact Nat.mul_lt_mul_of_pos_right hhigh (Nat.two_pow_pos 52)

theorem leading_of_small (h : n.log2 ≤ 52) : leading n = n * 2 ^ (52 - n.log2) := by
  have hpow : n * 2 ^ 52 = n * 2 ^ (52 - n.log2) * 2 ^ n.log2 := by
    rw [Nat.mul_assoc, ← Nat.pow_add, Nat.sub_add_cancel h]
  have hshift := halfEven_mul_two_pow (n * 2 ^ (52 - n.log2)) 0 n.log2
  rw [Nat.zero_add, halfEven_zero] at hshift
  rw [leading, hpow, hshift]

theorem leading_of_large (h : 52 ≤ n.log2) : leading n = halfEven n (n.log2 - 52) := by
  rw [leading, ← halfEven_mul_two_pow n (n.log2 - 52) 52, Nat.sub_add_cancel h]

theorem roundedNat_eq_leading (n : Nat) : roundedNat n * 2 ^ 52 = leading n * 2 ^ n.log2 := by
  rcases Nat.le_total n.log2 52 with h | h
  · have hexcess : excess n = 0 := Nat.sub_eq_zero_of_le h
    rw [roundedNat, hexcess, halfEven_zero, Nat.pow_zero, Nat.mul_one, leading_of_small h,
      Nat.mul_assoc, ← Nat.pow_add, Nat.sub_add_cancel h]
  · rw [roundedNat, excess, leading_of_large h, Nat.mul_assoc, ← Nat.pow_add, Nat.sub_add_cancel h]

end Leading

/-! ### Order -/

/-- The bits below the sign: how many digits there are, and the leading ones. -/
def place (n : Nat) : Nat := if n = 0 then 0 else (n.log2 + 1022) * 2 ^ 52 + leading n

section Order

variable {m n : Nat}

/-- Numbers of digits and leading digits order as the values do. The one value that can be written
in two ways has one place. -/
theorem parts_lt_iff {k l q r : Nat} (hq : 2 ^ 52 ≤ q ∧ q ≤ 2 ^ 53) (hr : 2 ^ 52 ≤ r ∧ r ≤ 2 ^ 53) :
    (k + 1022) * 2 ^ 52 + q < (l + 1022) * 2 ^ 52 + r ↔ q * 2 ^ k < r * 2 ^ l := by
  have htwo {d q : Nat} (hq : 2 ^ 52 ≤ q) : 2 * q ≤ q * 2 ^ (d + 1) ∧
      (1 ≤ d → 2 ^ 54 ≤ q * 2 ^ (d + 1)) := by
    have hd := Nat.two_pow_pos d
    rw [Nat.pow_succ, ← Nat.mul_assoc]
    refine ⟨?_, fun h => ?_⟩
    · have hle := Nat.le_mul_of_pos_right q hd
      omega
    · have hpow : 2 ≤ 2 ^ d := Nat.le_self_pow (Nat.ne_of_gt h) 2
      have hle := Nat.mul_le_mul hq hpow
      omega
  rcases Nat.lt_trichotomy k l with hlt | rfl | hlt
  · obtain ⟨d, rfl⟩ := Nat.exists_eq_add_of_lt hlt
    have hcancel : q * 2 ^ k < r * 2 ^ (k + d + 1) ↔ q < r * 2 ^ (d + 1) := by
      rw [Nat.add_assoc, Nat.pow_add, Nat.mul_comm (2 ^ k), ← Nat.mul_assoc,
        Nat.mul_lt_mul_right (Nat.two_pow_pos k)]
    obtain ⟨hone, hmore⟩ := htwo (d := d) hr.1
    rw [hcancel]
    rcases Nat.eq_zero_or_pos d with rfl | hd
    · omega
    · have hmore := hmore hd
      omega
  · rw [Nat.mul_lt_mul_right (Nat.two_pow_pos k)]
    omega
  · obtain ⟨d, rfl⟩ := Nat.exists_eq_add_of_lt hlt
    have hcancel : q * 2 ^ (l + d + 1) < r * 2 ^ l ↔ q * 2 ^ (d + 1) < r := by
      rw [Nat.add_assoc, Nat.pow_add, Nat.mul_comm (2 ^ l), ← Nat.mul_assoc,
        Nat.mul_lt_mul_right (Nat.two_pow_pos l)]
    obtain ⟨hone, -⟩ := htwo (d := d) hq.1
    rw [hcancel]
    omega

theorem roundedNat_pos (h : 0 < n) : 0 < roundedNat n := by
  have hvalue := roundedNat_eq_leading n
  have hlead := (leading_bounds h).1
  by_contra hzero
  rw [Nat.eq_zero_of_not_pos hzero, Nat.zero_mul] at hvalue
  have hpos := Nat.mul_pos (Nat.lt_of_lt_of_le (by decide) hlead) (Nat.two_pow_pos n.log2)
  omega

theorem place_lt_iff : place m < place n ↔ roundedNat m < roundedNat n := by
  rcases Nat.eq_zero_or_pos m with rfl | hm <;> rcases Nat.eq_zero_or_pos n with rfl | hn
  · simp
  · have hpos := roundedNat_pos hn
    have hlead := (leading_bounds hn).1
    have hzero : roundedNat 0 = 0 := by decide
    rw [hzero, place, place, if_pos rfl, if_neg (Nat.ne_of_gt hn)]
    omega
  · have hzero : roundedNat 0 = 0 := by decide
    rw [hzero, place, place, if_pos rfl]
    omega
  · rw [place, place, if_neg (Nat.ne_of_gt hm), if_neg (Nat.ne_of_gt hn),
      parts_lt_iff (leading_bounds hm) (leading_bounds hn), ← roundedNat_eq_leading,
      ← roundedNat_eq_leading, Nat.mul_lt_mul_right (Nat.two_pow_pos 52)]

end Order

/-! ### What rounding keeps -/

section Rounded

variable {m n : Nat}

theorem roundedNat_of_le (h : n ≤ 2 ^ 53) : roundedNat n = n := by
  rcases Nat.lt_or_eq_of_le h with hlt | rfl
  · have hlog : n.log2 ≤ 52 := by
      rcases Nat.eq_zero_or_pos n with rfl | hpos
      · decide
      · exact Nat.le_of_lt_succ ((Nat.log2_lt (Nat.pos_iff_ne_zero.1 hpos)).2 hlt)
    have hexcess : excess n = 0 := Nat.sub_eq_zero_of_le hlog
    rw [roundedNat, hexcess, halfEven_zero, Nat.pow_zero, Nat.mul_one]
  · decide +kernel

theorem roundedNat_mono (h : m ≤ n) : roundedNat m ≤ roundedNat n := by
  rcases Nat.eq_zero_or_pos m with rfl | hm
  · exact Nat.le_trans (Nat.le_of_eq (by decide)) (Nat.zero_le _)
  · have hn := Nat.lt_of_lt_of_le hm h
    have hlog : m.log2 ≤ n.log2 :=
      (Nat.le_log2 (Nat.pos_iff_ne_zero.1 hn)).2 (Nat.le_trans (log2_bounds hm).1 h)
    rcases Nat.lt_or_eq_of_le hlog with hlt | heq
    · refine Nat.le_of_mul_le_mul_right ?_ (Nat.two_pow_pos 52)
      calc roundedNat m * 2 ^ 52 = leading m * 2 ^ m.log2 := roundedNat_eq_leading m
        _ ≤ 2 ^ 53 * 2 ^ m.log2 := Nat.mul_le_mul_right _ (leading_bounds hm).2
        _ = 2 ^ 52 * 2 ^ (m.log2 + 1) := by rw [Nat.pow_succ]; omega
        _ ≤ 2 ^ 52 * 2 ^ n.log2 := Nat.mul_le_mul_left _ (Nat.pow_le_pow_right (by decide) hlt)
        _ ≤ leading n * 2 ^ n.log2 := Nat.mul_le_mul_right _ (leading_bounds hn).1
        _ = roundedNat n * 2 ^ 52 := (roundedNat_eq_leading n).symm
    · have hexcess : excess m = excess n := by rw [excess, excess, heq]
      rw [roundedNat, roundedNat, hexcess]
      exact Nat.mul_le_mul_right _ (halfEven_mono h _)

theorem rounded_neg (n : Int) : rounded (-n) = -rounded n := by
  rw [rounded, rounded, Int.sign_neg, Int.natAbs_neg, Int.neg_mul]

theorem rounded_natCast (n : Nat) : rounded n = roundedNat n := by
  rcases Nat.eq_zero_or_pos n with rfl | hn
  · decide
  · rw [rounded, Int.sign_natCast_of_ne_zero (Nat.ne_of_gt hn), Int.natAbs_natCast, Int.one_mul]

/-- An integer of up to 53 digits is kept. -/
theorem rounded_of_le {n : Int} (h : n.natAbs ≤ 2 ^ 53) : rounded n = n := by
  rw [rounded, roundedNat_of_le h, Int.sign_mul_natAbs]

theorem rounded_mono {m n : Int} (h : m ≤ n) : rounded m ≤ rounded n := by
  rcases Int.eq_nat_or_neg m with ⟨a, rfl | rfl⟩ <;> rcases Int.eq_nat_or_neg n with ⟨b, rfl | rfl⟩
  · rw [rounded_natCast, rounded_natCast]
    exact Int.ofNat_le.2 (roundedNat_mono (Int.ofNat_le.1 h))
  · have ha : a = 0 := by omega
    have hb : b = 0 := by omega
    subst ha hb
    decide
  · rw [rounded_neg, rounded_natCast, rounded_natCast]
    omega
  · rw [rounded_neg, rounded_neg, rounded_natCast, rounded_natCast]
    have hle := roundedNat_mono (show b ≤ a by omega)
    omega

theorem roundedNat_error (n : Nat) : 2 * ((roundedNat n : Int) - n).natAbs ≤ 2 ^ excess n := by
  obtain ⟨hlow, hhigh⟩ := halfEven_error n (excess n)
  rw [roundedNat]
  generalize 2 ^ excess n = unit at hlow hhigh ⊢
  omega

/-- The error is at most half of the last digit that is kept. -/
theorem rounded_error (n : Int) : 2 * (rounded n - n).natAbs ≤ 2 ^ excess n.natAbs := by
  rcases Int.eq_nat_or_neg n with ⟨a, rfl | rfl⟩
  · rw [rounded_natCast]
    exact roundedNat_error a
  · have hopposite : (-(roundedNat a : Int) - -(a : Int)).natAbs =
        ((roundedNat a : Int) - a).natAbs := by omega
    rw [rounded_neg, rounded_natCast, hopposite, Int.natAbs_neg]
    exact roundedNat_error a

end Rounded

end LossPrevention.Binary64
