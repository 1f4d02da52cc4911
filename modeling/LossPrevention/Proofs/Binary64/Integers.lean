import LossPrevention.Proofs.Binary64.Rounding

/-!
The numbers nearest to integers, in the logical model of the numbers. Main statement: they are
ordered as the rounded integers are, so two integers have one number if they are rounded to one.
-/

namespace LossPrevention.Binary64

open Float.Model Float.Model.UnpackedFloat

/-! ### Rounding in the model -/

section Round

variable {m : Nat} {e : Int} {s : Sign}

theorem shiftRight_exact (m k : Nat) :
    ExtendedMantissa.ofMantissaAndAccuracy m .exact >>> (k + 1) =
      ⟨m / 2 ^ (k + 1), m / 2 ^ k % 2 != 0, m % 2 ^ k != 0⟩ := by
  induction k with
  | zero =>
      simp only [Nat.pow_zero, Nat.div_one, Nat.mod_one]
      rfl
  | succ k ih =>
      have hstep : ExtendedMantissa.ofMantissaAndAccuracy m .exact >>> (k + 1 + 1) =
          (ExtendedMantissa.ofMantissaAndAccuracy m .exact >>> (k + 1)).shiftRightOne := rfl
      have hsticky : (m / 2 ^ k % 2 != 0 || m % 2 ^ k != 0) = (m % 2 ^ (k + 1) != 0) := by
        have hpos := Nat.two_pow_pos k
        rw [Nat.mod_pow_succ, Bool.eq_iff_iff]
        simp only [Bool.or_eq_true, bne_iff_ne, ne_eq, Nat.add_eq_zero_iff, Nat.mul_eq_zero,
          Nat.ne_of_gt hpos, false_or]
        tauto
      rw [hstep, ih, ExtendedMantissa.shiftRightOne, hsticky, Nat.div_div_eq_div_mul,
        ← Nat.pow_succ]

/-- The two bits behind the mantissa decide on the rounding as the remainder does. -/
theorem roundedMantissa_shiftRight (m k : Nat) :
    (ExtendedMantissa.ofMantissaAndAccuracy m .exact >>> k).roundedMantissa = halfEven m k := by
  cases k with
  | zero =>
      rw [halfEven_zero]
      rfl
  | succ k =>
      have hlow := Nat.mod_lt m (Nat.two_pow_pos k)
      rw [shiftRight_exact, halfEven, Nat.mod_pow_succ, Nat.pow_succ]
      generalize m / (2 ^ k * 2) = q
      generalize m % 2 ^ k = low at hlow ⊢
      rcases Nat.mod_two_eq_zero_or_one (m / 2 ^ k) with hbit | hbit <;>
        rcases Nat.eq_zero_or_pos low with rfl | hpos <;> rw [hbit]
      · have hround : (⟨q, 0 != 0, 0 != 0⟩ : ExtendedMantissa).roundedMantissa = q := rfl
        rw [hround, if_pos (by omega)]
      · have hround : (⟨q, 0 != 0, low != 0⟩ : ExtendedMantissa).roundedMantissa = q := by
          rw [bne_iff_ne.2 (Nat.ne_of_gt hpos)]
          rfl
        rw [hround, if_pos (by omega)]
      · have hround : (⟨q, 1 != 0, 0 != 0⟩ : ExtendedMantissa).roundedMantissa = q + q % 2 := rfl
        rw [hround]
        split <;> omega
      · have hround : (⟨q, 1 != 0, low != 0⟩ : ExtendedMantissa).roundedMantissa = q + 1 := by
          rw [bne_iff_ne.2 (Nat.ne_of_gt hpos)]
          rfl
        rw [hround, if_neg (by omega)]

/-- A number with all its 53 digits, within the range of exponents. -/
structure Normal (m : Nat) (e : Int) : Prop where
  least : 2 ^ 52 ≤ m
  most : m < 2 ^ 53
  low : -1074 ≤ e
  high : e ≤ 971

theorem Normal.pos (h : Normal m e) : 0 < m := Nat.lt_of_lt_of_le (by decide) h.least

theorem Normal.log2_eq (h : Normal m e) : m.log2 = 52 :=
  (Nat.log2_eq_iff (Nat.ne_of_gt h.pos)).2 ⟨h.least, h.most⟩

theorem halfEven_normal (h : 2 ^ 52 ≤ m) :
    2 ^ 52 ≤ halfEven m (m.log2 - 52) ∧ halfEven m (m.log2 - 52) ≤ 2 ^ 53 := by
  have hpos : 0 < m := Nat.lt_of_lt_of_le (by decide) h
  have hlog : 52 ≤ m.log2 := (Nat.le_log2 (Nat.ne_of_gt hpos)).2 h
  rw [← leading_of_large hlog]
  exact leading_bounds hpos

theorem shiftToTargetExponent_eq (hlow : -1074 ≤ e + (m.log2 - 52 : Nat)) (hm : 52 ≤ m.log2) :
    shiftToTargetExponent Format.binary64 m e .exact =
      (ExtendedMantissa.ofMantissaAndAccuracy m .exact >>> (m.log2 - 52),
        e + (m.log2 - 52 : Nat)) := by
  have htarget : Format.binary64.targetExponent (totalExponent m e) =
      e + (m.log2 - 52 : Nat) := by
    rw [targetExponent_eq, totalExponent]
    omega
  have hshift : (e + (m.log2 - 52 : Nat) - e).toNat = m.log2 - 52 := by omega
  rw [shiftToTargetExponent, htarget, shiftToExponent, hshift]

/-- The number of a mantissa that is short enough. -/
def finish (s : Sign) (p : ExtendedMantissa × Int) : UnpackedFloat :=
  if h : p.1.mantissa = 0 then .zero s else .finite s p.1.mantissa p.2 (Nat.pos_of_ne_zero h)

theorem roundWithAccuracy_eq_finish (hlow : -1074 ≤ e + (m.log2 - 52 : Nat)) (hm : 52 ≤ m.log2)
    (s : Sign) :
    roundWithAccuracy Format.binary64 s m e .exact =
      finish s (shiftToTargetExponent Format.binary64 (halfEven m (m.log2 - 52))
        (e + (m.log2 - 52 : Nat)) .exact) := by
  rw [← roundedMantissa_shiftRight, roundWithAccuracy, shiftToTargetExponent_eq hlow hm]
  rfl

/-- One shift is enough if rounding has carried over all the digits. -/
theorem exists_finish (hm : 2 ^ 52 ≤ m ∧ m ≤ 2 ^ 53) (hlow : -1074 ≤ e) (hhigh : e ≤ 970)
    (s : Sign) :
    ∃ m' e', ∃ h : Normal m' e',
      finish s (shiftToTargetExponent Format.binary64 m e .exact) = .finite s m' e' h.pos ∧
      (e' + 1074) * 2 ^ 52 + m' = (e + 1074) * 2 ^ 52 + m := by
  rcases Nat.lt_or_eq_of_le hm.2 with hlt | rfl
  · have hnormal : Normal m e := ⟨hm.1, hlt, hlow, by omega⟩
    have hzero : m.log2 - 52 = 0 := by rw [hnormal.log2_eq]
    have hshift := @shiftToTargetExponent_eq m e (by omega) (by rw [hnormal.log2_eq])
    rw [hzero, Nat.cast_zero, Int.add_zero] at hshift
    refine ⟨m, e, hnormal, ?_, rfl⟩
    rw [hshift]
    exact dif_neg (Nat.ne_of_gt hnormal.pos)
  · have hlog : (2 ^ 53).log2 - 52 = 1 := by decide +kernel
    have hshift := @shiftToTargetExponent_eq (2 ^ 53) e (by omega) (by omega)
    rw [hlog] at hshift
    refine ⟨2 ^ 52, e + 1, ⟨Nat.le_refl _, by decide, by omega, by omega⟩, ?_, ?_⟩
    · rw [hshift]
      rfl
    · push_cast
      ring

/-- The digits that rounding leaves, with the exponent they stand for. -/
theorem exists_round (hm : 2 ^ 52 ≤ m) (hlow : -1074 ≤ e + (m.log2 - 52 : Nat))
    (hhigh : e + (m.log2 - 52 : Nat) ≤ 970) (s : Sign) :
    ∃ m' e', ∃ h : Normal m' e',
      roundWithAccuracy Format.binary64 s m e .exact = .finite s m' e' h.pos ∧
      (e' + 1074) * 2 ^ 52 + m' =
        (e + (m.log2 - 52 : Nat) + 1074) * 2 ^ 52 + halfEven m (m.log2 - 52) := by
  have hlog : 52 ≤ m.log2 := (Nat.le_log2 (by omega)).2 hm
  rw [roundWithAccuracy_eq_finish hlow hlog]
  exact exists_finish (halfEven_normal hm) hlow hhigh s

end Round

/-! ### Packing -/

section Pack

variable {m : Nat} {e : Int} {s : Sign}

theorem pack_normal (h : Normal m e) :
    UnpackedFloat.pack Format.binary64 (.finite s m e h.pos) =
      packComponents Format.binary64 s (BitVec.ofNat 11 (e + 1075).toNat) (BitVec.ofNat 52 m) := by
  have hlow := h.low
  have hhigh := h.high
  have hbias : (e + Format.binary64.exponentBias +
      Format.binary64.mantissaBitsWithoutImplicit).toNat = (e + 1075).toNat := by
    have h1023 : Format.binary64.exponentBias = 1023 := by decide
    have h52 : Format.binary64.mantissaBitsWithoutImplicit = 52 := rfl
    rw [h1023, h52]
    congr 1
    omega
  have hfinite : ¬ 2 ^ Format.binary64.exponentBits ≤ (e + 1075).toNat + 1 := by
    have h2048 : 2 ^ Format.binary64.exponentBits = 2048 := by decide
    omega
  have hbits : m.log2 + 1 = Format.binary64.mantissaBits := by
    rw [h.log2_eq]
    rfl
  simp only [UnpackedFloat.pack, hbias]
  rw [if_neg hfinite, if_pos hbits]

theorem unpackSign_packComponents (s : Sign) (x : BitVec 11) (y : BitVec 52) :
    unpackSign (packComponents Format.binary64 s x y) = s.toBitVec := by
  have hparts : unpackSign (packComponents Format.binary64 s x y) =
      (s.toBitVec ++ x ++ y).extractLsb' 63 1 := rfl
  rw [hparts, BitVec.extractLsb'_append_eq_of_le (by decide),
    BitVec.extractLsb'_append_eq_of_le (by decide)]
  exact BitVec.extractLsb'_eq_self

theorem toNat_exponent (h : Normal m e) :
    (BitVec.ofNat 11 (e + 1075).toNat).toNat = (e + 1075).toNat := by
  have hlow := h.low
  have hhigh := h.high
  rw [BitVec.toNat_ofNat]
  exact Nat.mod_eq_of_lt (by omega)

theorem unpack_pack (h : Normal m e) :
    UnpackedFloat.unpack Format.binary64
      (UnpackedFloat.pack Format.binary64 (.finite s m e h.pos)) = .finite s m e h.pos := by
  have hlow := h.low
  have hhigh := h.high
  have hleast := h.least
  have hmost := h.most
  have hexponent := toNat_exponent h
  have hones : BitVec.ofNat 11 (e + 1075).toNat ≠ -1#11 := by
    intro heq
    have hnat : (e + 1075).toNat = 2047 := hexponent.symm.trans (congrArg BitVec.toNat heq)
    omega
  have hzero : BitVec.ofNat 11 (e + 1075).toNat ≠ 0#11 := by
    intro heq
    have hnat : (e + 1075).toNat = 0 := hexponent.symm.trans (congrArg BitVec.toNat heq)
    omega
  have hmantissa : (1#1 ++ BitVec.ofNat 52 m).toNat = m := by
    rw [BitVec.toNat_append, BitVec.toNat_ofNat, BitVec.toNat_ofNat, ← Nat.shiftLeft_add_eq_or_of_lt
      (Nat.mod_lt m (Nat.two_pow_pos 52)), Nat.shiftLeft_eq]
    omega
  have hsign : Sign.ofBitVec s.toBitVec = s := by cases s <;> rfl
  have h1023 : Format.binary64.exponentBias = 1023 := by decide
  rw [pack_normal h, UnpackedFloat.unpack]
  simp only [unpackMantissa_packComponents, unpackExponent_packComponents,
    unpackSign_packComponents, hsign, h1023]
  rw [if_neg hones, if_neg hzero]
  congr 1
  rw [hexponent]
  omega

/-- The bits of a number as they follow each other. -/
theorem toNat_pack (h : Normal m e) :
    ((UnpackedFloat.pack Format.binary64 (.finite s m e h.pos)).toNat : Int) =
      s.toBitVec.toNat * 2 ^ 63 + ((e + 1074) * 2 ^ 52 + m) := by
  have hlow := h.low
  have hhigh := h.high
  have hleast := h.least
  have hmost := h.most
  have hbits : (s.toBitVec ++ BitVec.ofNat 11 (e + 1075).toNat ++ BitVec.ofNat 52 m).toNat =
      (s.toBitVec.toNat * 2 ^ 11 + (e + 1075).toNat) * 2 ^ 52 + m % 2 ^ 52 := by
    have hexponent : (e + 1075).toNat < 2 ^ 11 := by omega
    rw [BitVec.toNat_append, BitVec.toNat_append, toNat_exponent h, BitVec.toNat_ofNat,
      ← Nat.shiftLeft_add_eq_or_of_lt (Nat.mod_lt m (Nat.two_pow_pos 52)),
      ← Nat.shiftLeft_add_eq_or_of_lt hexponent, Nat.shiftLeft_eq, Nat.shiftLeft_eq]
  have hcomponents : (UnpackedFloat.pack Format.binary64 (.finite s m e h.pos)).toNat =
      (s.toBitVec.toNat * 2 ^ 11 + (e + 1075).toNat) * 2 ^ 52 + m % 2 ^ 52 := by
    rw [pack_normal h]
    exact hbits
  rw [hcomponents]
  omega

end Pack

/-! ### Ranks -/

section Rank

variable {m n : Nat} {e : Int} {s : Sign}

theorem rank_pack (h : Normal m e) :
    rank (.ofModel (Float.Model.pack (.finite s m e h.pos))) =
      s.apply ((e + 1074) * 2 ^ 52 + m) := by
  have hlow := h.low
  have hhigh := h.high
  have hmost := h.most
  have hbits := @toNat_pack m e s h
  have htoBits : (Float.ofModel (Float.Model.pack (.finite s m e h.pos))).toBits.toNat =
      (UnpackedFloat.pack Format.binary64 (.finite s m e h.pos)).toNat := rfl
  have h63 : Nat.pow 2 63 = 2 ^ 63 := rfl
  rw [rank, signBit, htoBits, h63]
  cases s with
  | positive =>
      have hzero : (Sign.positive.toBitVec.toNat : Int) = 0 := rfl
      rw [hzero] at hbits
      rw [if_neg (by rw [decide_eq_true_eq]; omega), Sign.apply]
      omega
  | negative =>
      have hone : (Sign.negative.toBitVec.toNat : Int) = 1 := rfl
      rw [hone] at hbits
      rw [if_pos (by rw [decide_eq_true_eq]; omega), Sign.apply]
      omega

theorem neg_pack (h : Normal m e) :
    Float.neg (.ofModel (Float.Model.pack (.finite s m e h.pos))) =
      .ofModel (Float.Model.pack (.finite (-s) m e h.pos)) := by
  have hunpack : (Float.Model.pack (.finite s m e h.pos)).unpack = .finite s m e h.pos :=
    unpack_pack h
  have hneg : Float.neg (.ofModel (Float.Model.pack (.finite s m e h.pos))) =
      .ofModel (Float.Model.pack (Float.Model.pack (.finite s m e h.pos)).unpack.neg) := rfl
  rw [hneg, hunpack]
  rfl

theorem log2_mul_two_pow (hn : 0 < n) (k : Nat) : (n * 2 ^ k).log2 = n.log2 + k := by
  obtain ⟨hlow, hhigh⟩ := log2_bounds hn
  have hpos := Nat.mul_pos hn (Nat.two_pow_pos k)
  refine (Nat.log2_eq_iff (Nat.ne_of_gt hpos)).2 ⟨?_, ?_⟩
  · rw [Nat.pow_add]
    exact Nat.mul_le_mul_right _ hlow
  · rw [Nat.add_right_comm, Nat.pow_add]
    exact Nat.mul_lt_mul_of_pos_right hhigh (Nat.two_pow_pos k)

/-- Multiplication by one changes nothing. -/
theorem mul_one_pack (h : Normal m e) (hhigh : e ≤ 970) :
    Float.ofModel (Float.Model.pack (.finite .positive m e h.pos)) *
        Float.ofBits 0x3FF0000000000000 =
      .ofModel (Float.Model.pack (.finite .positive m e h.pos)) := by
  have hlow := h.low
  have hleast := h.least
  have hmost := h.most
  have hunpack : (Float.Model.pack (.finite .positive m e h.pos)).unpack =
      .finite .positive m e h.pos := unpack_pack h
  have hone : (Float.ofBits 0x3FF0000000000000).toModel.unpack =
      .finite .positive (2 ^ 52) (-52) (by decide) := rfl
  have hmul : Float.ofModel (Float.Model.pack (.finite .positive m e h.pos)) *
      Float.ofBits 0x3FF0000000000000 =
        .ofModel (Float.Model.pack (UnpackedFloat.mul Format.binary64
          (Float.Model.pack (.finite .positive m e h.pos)).unpack
          (Float.ofBits 0x3FF0000000000000).toModel.unpack)) := rfl
  have hlog : (m * 2 ^ 52).log2 - 52 = 52 := by
    rw [log2_mul_two_pow h.pos, h.log2_eq]
  obtain ⟨m', e', hnormal, hround, hplace⟩ := @exists_round (m * 2 ^ 52) (e + -52) (by omega)
    (by rw [hlog]; omega) (by rw [hlog]; omega) (.positive * .positive)
  have hdigits := halfEven_mul_two_pow m 0 52
  rw [Nat.zero_add, halfEven_zero] at hdigits
  rw [hlog, hdigits] at hplace
  have hleast' := hnormal.least
  have hmost' := hnormal.most
  obtain rfl : m' = m := by omega
  obtain rfl : e' = e := by omega
  rw [hmul, hunpack, hone, UnpackedFloat.mul, hround]
  rfl

theorem toFloat_eq_round (hpos : 0 < n) (hn : n < 2 ^ 64) : n.toUInt64.toFloat =
    .ofModel (Float.Model.pack (UnpackedFloat.round Format.binary64 .positive n 0)) := by
  have hword : n.toUInt64.toNat = n := UInt64.toNat_ofNat_of_lt' hn
  have hcompare : compare (n : Int) 0 = .gt := by
    rw [compare_gt_iff_gt]
    omega
  have hmodel : n.toUInt64.toFloat = .ofModel (Float.Model.pack
      (UnpackedFloat.normalize Format.binary64 n.toUInt64.toNat 0 .positive)) := rfl
  rw [hmodel, hword, UnpackedFloat.normalize.eq_1, hcompare]
  dsimp only
  rw [Int.toNat_natCast]

theorem round_small (hlog : n.log2 ≤ 52) :
    UnpackedFloat.round Format.binary64 .positive n 0 =
      roundWithAccuracy Format.binary64 .positive (n * 2 ^ (52 - n.log2)) (-(52 - n.log2 : Nat))
        .exact := by
  have htarget : Format.binary64.targetExponent (totalExponent n 0) = -(52 - n.log2 : Nat) := by
    rw [targetExponent_eq, totalExponent]
    omega
  have hshift : (0 - -((52 - n.log2 : Nat) : Int)).toNat = 52 - n.log2 := by omega
  simp only [UnpackedFloat.round, htarget, decreaseExponent, hshift, Nat.shiftLeft_eq]
  rw [Int.zero_sub]

/-- An integer of up to 53 digits is shifted up to all of them. -/
theorem ofInt_of_small (hpos : 0 < n) (hn : n < 2 ^ 53) :
    ∃ m e, ∃ h : Normal m e,
      ofInt n = .ofModel (Float.Model.pack (.finite .positive m e h.pos)) ∧
        (e + 1074) * 2 ^ 52 + m = place n := by
  have hlog : n.log2 ≤ 52 := Nat.le_of_lt_succ ((Nat.log2_lt (Nat.ne_of_gt hpos)).2 hn)
  have hshift : (n * 2 ^ (52 - n.log2)).log2 - 52 = 0 := by
    rw [log2_mul_two_pow hpos]
    omega
  have hlead := leading_bounds hpos
  rw [leading_of_small hlog] at hlead
  obtain ⟨m, e, hnormal, hround, hplace⟩ := @exists_round (n * 2 ^ (52 - n.log2))
    (-(52 - n.log2 : Nat)) hlead.1 (by rw [hshift]; omega) (by rw [hshift]; omega) .positive
  have hleast := hnormal.least
  rw [hshift, halfEven_zero] at hplace
  have hfloat : n.toUInt64.toFloat =
      .ofModel (Float.Model.pack (.finite .positive m e hnormal.pos)) := by
    rw [toFloat_eq_round hpos (Nat.lt_trans hn (by decide)), round_small hlog, hround]
  have hofInt : ofInt n = n.toUInt64.toFloat * Float.ofBits 0x3FF0000000000000 := by
    have hscientific : ofInt n = Float.ofScientific n false 0 := rfl
    rw [hscientific, Float.ofScientific, dif_pos ⟨hn, by decide⟩]
    rfl
  refine ⟨m, e, hnormal, ?_, ?_⟩
  · rw [hofInt, hfloat, mul_one_pack hnormal (by omega)]
  · rw [hplace, place, if_neg (Nat.ne_of_gt hpos), leading_of_small hlog]
    push_cast
    omega

theorem ofInt_of_large (hlow : 2 ^ 53 ≤ n) (hhigh : n < 2 ^ 64) :
    ∃ m e, ∃ h : Normal m e,
      ofInt n = .ofModel (Float.Model.pack (.finite .positive m e h.pos)) ∧
        (e + 1074) * 2 ^ 52 + m = place n := by
  have hpos : 0 < n := Nat.lt_of_lt_of_le (by decide) hlow
  have hlog : 53 ≤ n.log2 := (Nat.le_log2 (Nat.ne_of_gt hpos)).2 hlow
  have hlog' : n.log2 < 64 := (Nat.log2_lt (Nat.ne_of_gt hpos)).2 hhigh
  have hmantissa : n <<< 53 * 1 = n * 2 ^ 53 := by rw [Nat.mul_one, Nat.shiftLeft_eq]
  have hshift : (n * 2 ^ 53).log2 - 52 = n.log2 - 52 + 53 := by
    rw [log2_mul_two_pow hpos]
    omega
  obtain ⟨m, e, hnormal, hround, hplace⟩ := @exists_round (n * 2 ^ 53) (-53 + 0) (by omega)
    (by rw [hshift]; omega) (by rw [hshift]; omega) (.positive * .positive)
  refine ⟨m, e, hnormal, ?_, ?_⟩
  · rw [ofInt_eq hlow, ofScientific_eq (Nat.ne_of_gt hpos), hmantissa, hround]
    rfl
  · rw [hplace, hshift, halfEven_mul_two_pow, place, if_neg (Nat.ne_of_gt hpos),
      leading_of_large (by omega)]
    push_cast
    omega

theorem exists_normal (hpos : 0 < n) (hhigh : n < 2 ^ 64) :
    ∃ m e, ∃ h : Normal m e,
      ofInt n = .ofModel (Float.Model.pack (.finite .positive m e h.pos)) ∧
        (e + 1074) * 2 ^ 52 + m = place n := by
  rcases Nat.lt_or_ge n (2 ^ 53) with hlt | hge
  · exact ofInt_of_small hpos hlt
  · exact ofInt_of_large hge hhigh

theorem rank_ofInt_zero : rank (ofInt 0) = 0 := by decide +kernel

theorem rank_natCast (h : n < 2 ^ 64) : rank (ofInt n) = place n := by
  rcases Nat.eq_zero_or_pos n with rfl | hpos
  · exact rank_ofInt_zero
  · obtain ⟨m, e, hnormal, hofInt, hplace⟩ := exists_normal hpos h
    rw [hofInt, rank_pack hnormal, ← hplace, Sign.apply]

theorem rank_neg_natCast (h : n < 2 ^ 64) : rank (ofInt (-n)) = -place n := by
  cases n with
  | zero => exact rank_ofInt_zero
  | succ k =>
      obtain ⟨m, e, hnormal, hofInt, hplace⟩ := exists_normal (Nat.succ_pos k) h
      have hneg : ofInt (-(k + 1 : Nat)) = Float.neg (ofInt (k + 1 : Nat)) := rfl
      have hsign : (-Sign.positive : Sign) = .negative := rfl
      rw [hneg, hofInt, neg_pack hnormal, hsign, rank_pack hnormal, ← hplace, Sign.apply]

/-- The numbers nearest to integers of 64 bits lie as the rounded integers do. -/
theorem rank_ofInt_lt_iff {m n : Int} (hm : m.natAbs < 2 ^ 64) (hn : n.natAbs < 2 ^ 64) :
    rank (ofInt m) < rank (ofInt n) ↔ rounded m < rounded n := by
  have hzero (a : Nat) : 0 < place a ↔ 0 < roundedNat a := @place_lt_iff 0 a
  rcases Int.eq_nat_or_neg m with ⟨a, rfl | rfl⟩ <;> rcases Int.eq_nat_or_neg n with ⟨b, rfl | rfl⟩
  all_goals
    simp only [Int.natAbs_neg, Int.natAbs_natCast] at hm hn
    have hplace := @place_lt_iff a b
    have hplace' := @place_lt_iff b a
    have ha := hzero a
    have hb := hzero b
    simp only [rank_natCast, rank_neg_natCast, hm, hn, rounded_neg, rounded_natCast]
    omega

theorem rank_ofInt_eq_iff {m n : Int} (hm : m.natAbs < 2 ^ 64) (hn : n.natAbs < 2 ^ 64) :
    rank (ofInt m) = rank (ofInt n) ↔ rounded m = rounded n := by
  have hlt := rank_ofInt_lt_iff hm hn
  have hgt := rank_ofInt_lt_iff hn hm
  omega

end Rank

end LossPrevention.Binary64
