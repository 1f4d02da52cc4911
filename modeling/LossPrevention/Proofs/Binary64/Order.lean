import LossPrevention.Proofs.Binary64.Values

/-!
The order of binary numbers. Main statement: a number is below another one if and only if its place
is, where what is not a number is neither below nor above anything.
-/

namespace LossPrevention.Binary64

open Float.Model Float.Model.UnpackedFloat

/-! ### Unpacked numbers -/

/-- A number with all its 53 digits, or one that is too small for them. -/
structure Canonical (m : Nat) (e : Int) : Prop where
  most : m < 2 ^ 53
  low : -1074 ≤ e
  high : e ≤ 971
  leads : 2 ^ 52 ≤ m ∨ e = -1074

/-- What numbers are unpacked to. -/
inductive Unpacked : UnpackedFloat → Prop
  | notANumber : Unpacked .notANumber
  | infinity (s : Sign) : Unpacked (.infinity s)
  | zero (s : Sign) : Unpacked (.zero s)
  | finite {s : Sign} {m : Nat} {e : Int} {hm : 0 < m} (h : Canonical m e) :
      Unpacked (.finite s m e hm)

def unpackedPlace? : UnpackedFloat → Option Int
  | .notANumber => none
  | .infinity s => some (s.apply (2047 * 2 ^ 52))
  | .zero _ => some 0
  | .finite s m e _ => some (s.apply ((e + 1074) * 2 ^ 52 + m))

section Compare

variable {m m' : Nat} {e e' : Int} {u v : UnpackedFloat}

theorem Canonical.place_bounds (h : Canonical m e) (hm : 0 < m) :
    0 < (e + 1074) * 2 ^ 52 + m ∧ (e + 1074) * 2 ^ 52 + m < 2047 * 2 ^ 52 := by
  have hmost := h.most
  have hlow := h.low
  have hhigh := h.high
  constructor <;> omega

/-- Exponents come first, and the digits decide between equal ones. -/
theorem compare_finite (h : Canonical m e) (h' : Canonical m' e') :
    (compare e e').then (compare m m') =
      compare ((e + 1074) * 2 ^ 52 + m) ((e' + 1074) * 2 ^ 52 + m') := by
  have hmost := h.most
  have hmost' := h'.most
  have hleads := h.leads
  have hleads' := h'.leads
  have hlow := h.low
  have hlow' := h'.low
  rcases Int.lt_trichotomy e e' with hlt | rfl | hgt
  · rw [Int.compare_eq_lt.2 hlt, Int.compare_eq_lt.2 (by omega)]
    rfl
  · rw [Int.compare_eq_eq.2 rfl, Ordering.eq_then]
    rcases Nat.lt_trichotomy m m' with hlt | rfl | hgt
    · rw [Nat.compare_eq_lt.2 hlt, Int.compare_eq_lt.2 (by omega)]
    · rw [Nat.compare_eq_eq.2 rfl, Int.compare_eq_eq.2 rfl]
    · rw [Nat.compare_eq_gt.2 hgt, Int.compare_eq_gt.2 (by omega)]
  · rw [Int.compare_eq_gt.2 hgt, Int.compare_eq_gt.2 (by omega)]
    rfl

theorem compare_neg (p q : Int) : compare (-p) (-q) = (compare p q).swap := by
  rw [Int.compare_swap]
  rcases Int.lt_trichotomy p q with hlt | rfl | hgt
  · rw [Int.compare_eq_gt.2 hlt, Int.compare_eq_gt.2 (by omega)]
  · rw [Int.compare_eq_eq.2 rfl, Int.compare_eq_eq.2 rfl]
  · rw [Int.compare_eq_lt.2 hgt, Int.compare_eq_lt.2 (by omega)]

theorem some_lt_eq_iff {p q : Int} :
    some Ordering.lt = ((some p).bind fun p => (some q).map (compare p)) ↔ p < q := by
  rw [Option.bind_some, Option.map_some, Option.some_inj, eq_comm, Int.compare_eq_lt]

theorem some_gt_eq_iff {p q : Int} :
    some Ordering.gt = ((some p).bind fun p => (some q).map (compare p)) ↔ q < p := by
  rw [Option.bind_some, Option.map_some, Option.some_inj, eq_comm, Int.compare_eq_gt]

/-- Unpacked numbers are compared as their places are. -/
theorem compare_unpacked (hu : Unpacked u) (hv : Unpacked v) :
    u.compare v = (unpackedPlace? u).bind fun p => (unpackedPlace? v).map (compare p) := by
  cases hu with
  | notANumber => rfl
  | infinity s =>
      cases hv with
      | notANumber => cases s <;> rfl
      | infinity s' => cases s <;> cases s' <;> rfl
      | zero s' => cases s <;> rfl
      | @finite s' m' e' hm' h' =>
          have hplace := h'.place_bounds hm'
          cases s <;> cases s' <;>
            simp only [UnpackedFloat.compare, unpackedPlace?, Sign.apply, some_lt_eq_iff,
              some_gt_eq_iff] <;> omega
  | zero s =>
      cases hv with
      | notANumber => rfl
      | infinity s' => cases s' <;> rfl
      | zero s' => rfl
      | @finite s' m' e' hm' h' =>
          have hplace := h'.place_bounds hm'
          cases s' <;>
            simp only [UnpackedFloat.compare, unpackedPlace?, Sign.apply, some_lt_eq_iff,
              some_gt_eq_iff] <;> omega
  | @finite s m e hm h =>
      have hplace := h.place_bounds hm
      cases hv with
      | notANumber => cases s <;> rfl
      | infinity s' =>
          cases s <;> cases s' <;>
            simp only [UnpackedFloat.compare, unpackedPlace?, Sign.apply, some_lt_eq_iff,
              some_gt_eq_iff] <;> omega
      | zero s' =>
          cases s <;>
            simp only [UnpackedFloat.compare, unpackedPlace?, Sign.apply, some_lt_eq_iff,
              some_gt_eq_iff] <;> omega
      | @finite s' m' e' hm' h' =>
          have hplace' := h'.place_bounds hm'
          cases s <;> cases s'
          · exact congrArg some (((compare_neg _ _).trans
              (congrArg Ordering.swap (compare_finite h h').symm)).symm)
          · exact some_lt_eq_iff.2 (by simp only [Sign.apply]; omega)
          · exact some_gt_eq_iff.2 (by simp only [Sign.apply]; omega)
          · exact congrArg some (compare_finite h h')

end Compare

/-! ### Unpacking -/

section Unpack

variable {x y z : Float}

def signField (x : Float) : BitVec 1 :=
  @unpackSign Format.binary64 x.toModel.toBits.toBitVec

def fractionField (x : Float) : BitVec 52 :=
  @unpackMantissa Format.binary64 x.toModel.toBits.toBitVec

theorem toNat_fractionField (x : Float) : (fractionField x).toNat = fractionBits x := by
  rw [fractionBits, fractionField, unpackMantissa, BitVec.toNat_cast, BitVec.extractLsb_toNat,
    Nat.shiftRight_zero]
  rfl

theorem toNat_signField (x : Float) : (signField x).toNat = if signBit x then 1 else 0 := by
  have hbits := x.toBits.toNat_lt
  have h63 : Nat.pow 2 63 = 2 ^ 63 := rfl
  have hfield : (signField x).toNat = x.toBits.toNat / 2 ^ 63 % 2 := by
    rw [signField, unpackSign, BitVec.toNat_cast, BitVec.extractLsb_toNat,
      Nat.shiftRight_eq_div_pow]
    rfl
  rw [hfield, signBit, h63]
  split <;> rename_i h <;> rw [decide_eq_true_iff] at h <;> omega

theorem sign_signField (x : Float) :
    Sign.ofBitVec (signField x) = if signBit x then .negative else .positive := by
  have hnat := toNat_signField x
  have hzero : (0#1).toNat = 0 := rfl
  rw [Sign.ofBitVec]
  split
  · rename_i h
    rw [h, hzero] at hnat
    split at hnat
    · cases hnat
    · rename_i hs
      rw [if_neg hs]
  · rename_i h
    split at hnat
    · rename_i hs
      rw [if_pos hs]
    · exact absurd (BitVec.eq_of_toNat_eq hnat) h

theorem fractionField_eq_zero_iff : fractionField x = 0#52 ↔ fractionBits x = 0 := by
  rw [← BitVec.toNat_inj, toNat_fractionField]
  rfl

theorem exponentField_eq_zero_iff : exponentField x = 0#11 ↔ exponentBits x = 0 := by
  rw [← BitVec.toNat_inj, exponentBits_eq]
  rfl

theorem exponentField_eq_ones_iff : exponentField x = -1#11 ↔ exponentBits x = 2047 := by
  have hones : (-1#11 : BitVec 11).toNat = 2047 := by decide
  rw [← BitVec.toNat_inj, exponentBits_eq, hones]

theorem apply_magnitudeBits (x : Float) :
    (Sign.ofBitVec (signField x)).apply (magnitudeBits x) = rank x := by
  rw [sign_signField, rank_eq_magnitudeBits]
  by_cases hs : signBit x = true
  · rw [if_pos hs, if_pos hs, Sign.apply]
  · rw [if_neg hs, if_neg hs, Sign.apply]

theorem canonical_small (h : exponentBits x = 0) : Canonical (fractionBits x) (-1074) ∧
    (-1074 + 1074 : Int) * 2 ^ 52 + fractionBits x = magnitudeBits x := by
  have hless := fractionBits_lt x
  refine ⟨⟨by omega, by omega, by omega, .inr rfl⟩, ?_⟩
  rw [magnitudeBits, h]
  omega

theorem canonical_normal (hpos : exponentBits x ≠ 0) (hlt : exponentBits x < 2047) :
    Canonical (2 ^ 52 + fractionBits x) (exponentBits x - 1075) ∧
      ((exponentBits x : Int) - 1075 + 1074) * 2 ^ 52 + (2 ^ 52 + fractionBits x : Nat) =
        magnitudeBits x := by
  have hless := fractionBits_lt x
  refine ⟨⟨by omega, by omega, by omega, .inl (by omega)⟩, ?_⟩
  rw [magnitudeBits]
  push_cast
  ring

theorem isNaN_eq_false (h : exponentBits x ≠ 2047) : isNaN x = false := by
  rw [isNaN, decide_eq_false h, Bool.false_and]

theorem place_of_canonical {m : Nat} {e : Int} {hm : 0 < m} (h : Canonical m e)
    (hplace : (e + 1074) * 2 ^ 52 + m = magnitudeBits x) (hnan : isNaN x = false) :
    Unpacked (.finite (Sign.ofBitVec (signField x)) m e hm) ∧
      unpackedPlace? (.finite (Sign.ofBitVec (signField x)) m e hm) =
        if isNaN x then none else some (rank x) := by
  rw [unpackedPlace?, hplace, apply_magnitudeBits, hnan]
  exact ⟨.finite h, rfl⟩

/-- The place of a number is the one of what it is unpacked to. -/
theorem unpack_place (x : Float) : Unpacked x.toModel.unpack ∧
    unpackedPlace? x.toModel.unpack = if isNaN x then none else some (rank x) := by
  have hbias : Format.binary64.exponentBias = 1023 := by decide
  have hexponent : @unpackExponent Format.binary64 x.toModel.toBits.toBitVec = exponentField x :=
    rfl
  have hfraction : @unpackMantissa Format.binary64 x.toModel.toBits.toBitVec = fractionField x :=
    rfl
  have hsign : @unpackSign Format.binary64 x.toModel.toBits.toBitVec = signField x := rfl
  have hbits := exponentBits_eq x
  have hsize : exponentBits x < 2 ^ 11 := hbits ▸ (exponentField x).isLt
  have hrank := apply_magnitudeBits x
  simp only [Float.Model.unpack, UnpackedFloat.unpack, hbias, hexponent, hfraction, hsign]
  by_cases hones : exponentBits x = 2047
  · rw [if_pos (exponentField_eq_ones_iff.2 hones)]
    by_cases hzero : fractionBits x = 0
    · have hnan : isNaN x = false := by simp [isNaN, hzero]
      rw [if_pos (fractionField_eq_zero_iff.2 hzero), hnan]
      rw [magnitudeBits, hones, hzero] at hrank
      exact ⟨.infinity _, congrArg some hrank⟩
    · have hnan : isNaN x = true := by simp [isNaN, hones, hzero]
      rw [if_neg (mt fractionField_eq_zero_iff.1 hzero), hnan]
      exact ⟨.notANumber, rfl⟩
  have hnan := isNaN_eq_false hones
  rw [if_neg (mt exponentField_eq_ones_iff.1 hones)]
  by_cases hsmall : exponentBits x = 0
  · rw [if_pos (exponentField_eq_zero_iff.2 hsmall)]
    by_cases hzero : fractionBits x = 0
    · rw [dif_pos (fractionField_eq_zero_iff.2 hzero), hnan]
      rw [magnitudeBits, hsmall, hzero, sign_signField] at hrank
      refine ⟨.zero _, congrArg some (Eq.trans ?_ hrank)⟩
      split <;> rfl
    · obtain ⟨hcanonical, hplace⟩ := canonical_small hsmall
      have he : ((exponentField x).toNat : Int) - ((1023 : Nat) + (52 : Nat)) + 1 = -1074 := by
        omega
      rw [dif_neg (mt fractionField_eq_zero_iff.1 hzero)]
      simp only [toNat_fractionField, he]
      exact place_of_canonical hcanonical hplace hnan
  · obtain ⟨hcanonical, hplace⟩ := canonical_normal hsmall (by omega)
    have hmantissa : (1#1 ++ fractionField x).toNat = 2 ^ 52 + fractionBits x := by
      rw [BitVec.toNat_append, toNat_fractionField, ← Nat.shiftLeft_add_eq_or_of_lt
        (fractionBits_lt x)]
      rfl
    have he : ((exponentField x).toNat : Int) - ((1023 : Nat) + (52 : Nat)) =
        exponentBits x - 1075 := by omega
    rw [if_neg (mt exponentField_eq_zero_iff.1 hsmall)]
    simp only [hmantissa, he]
    exact place_of_canonical hcanonical hplace hnan

theorem compare_toModel (x y : Float) : x.toModel.unpack.compare y.toModel.unpack =
    if isNaN x ∨ isNaN y then none else some (compare (rank x) (rank y)) := by
  obtain ⟨hx, hplace⟩ := unpack_place x
  obtain ⟨hy, hplace'⟩ := unpack_place y
  rw [compare_unpacked hx hy, hplace, hplace']
  cases isNaN x <;> cases isNaN y <;> rfl

/-- A number is below another one if its place is. -/
theorem lt_iff : x < y ↔ isNaN x = false ∧ isNaN y = false ∧ rank x < rank y := by
  have hmodel : x < y ↔ (x.toModel.unpack.compare y.toModel.unpack == some .lt) = true :=
    decide_eq_true_iff
  rw [hmodel, compare_toModel]
  cases isNaN x <;> cases isNaN y <;> simp [Int.compare_eq_lt]

theorem le_iff : x ≤ y ↔ isNaN x = false ∧ isNaN y = false ∧ rank x ≤ rank y := by
  have hmodel : x ≤ y ↔ (x.toModel.unpack.compare y.toModel.unpack).any (·.isLE) = true :=
    decide_eq_true_iff
  rw [hmodel, compare_toModel]
  cases isNaN x <;> cases isNaN y <;> simp [Int.isLE_compare]

protected theorem le_refl (h : isNaN x = false) : x ≤ x := le_iff.2 ⟨h, h, Int.le_refl _⟩

protected theorem le_of_lt (h : x < y) : x ≤ y := by
  obtain ⟨hx, hy, hlt⟩ := lt_iff.1 h
  exact le_iff.2 ⟨hx, hy, Int.le_of_lt hlt⟩

protected theorem le_trans (h : x ≤ y) (h' : y ≤ z) : x ≤ z := by
  obtain ⟨hx, -, hle⟩ := le_iff.1 h
  obtain ⟨-, hz, hle'⟩ := le_iff.1 h'
  exact le_iff.2 ⟨hx, hz, Int.le_trans hle hle'⟩

protected theorem lt_of_le_of_lt (h : x ≤ y) (h' : y < z) : x < z := by
  obtain ⟨hx, -, hle⟩ := le_iff.1 h
  obtain ⟨-, hz, hlt⟩ := lt_iff.1 h'
  exact lt_iff.2 ⟨hx, hz, Int.lt_of_le_of_lt hle hlt⟩

/-- Of two numbers one is at least the other. -/
protected theorem le_of_not_lt (hx : isNaN x = false) (hy : isNaN y = false) (h : ¬ x < y) :
    y ≤ x :=
  le_iff.2 ⟨hy, hx, Int.not_lt.1 fun hlt => h (lt_iff.2 ⟨hx, hy, hlt⟩)⟩

protected theorem not_lt_of_le (h : x ≤ y) : ¬ y < x := by
  intro hlt
  have hrank := (le_iff.1 h).2.2
  have hrank' := (lt_iff.1 hlt).2.2
  omega

theorem isNaN_right (h : x ≤ y) : isNaN y = false := (le_iff.1 h).2.1

end Unpack

end LossPrevention.Binary64
