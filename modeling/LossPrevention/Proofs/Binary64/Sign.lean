import LossPrevention.Proofs.Binary64.Order

/-!
Sums, products and quotients of binary numbers that are not below zero. None of them is below zero,
however they are rounded, as long as nothing is divided by a zero with a minus.
-/

namespace LossPrevention.Binary64

open Float.Model Float.Model.UnpackedFloat

/-! ### Unpacked numbers -/

/-- Without a minus. -/
inductive Unsigned : UnpackedFloat → Prop
  | notANumber : Unsigned .notANumber
  | infinity : Unsigned (.infinity .positive)
  | zero : Unsigned (.zero .positive)
  | finite {m : Nat} {e : Int} {hm : 0 < m} : Unsigned (.finite .positive m e hm)

/-- Without a minus, but for that of a zero. -/
inductive NotNegative : UnpackedFloat → Prop
  | unsigned {u : UnpackedFloat} (h : Unsigned u) : NotNegative u
  | zero : NotNegative (.zero .negative)

section Operations

variable {spec : Format} {u v : UnpackedFloat} {m : Nat} {e : Int}

theorem unsigned_roundWithAccuracy (m : Nat) (e : Int) (a : Accuracy) :
    Unsigned (roundWithAccuracy spec .positive m e a) := by
  unfold roundWithAccuracy
  dsimp only
  split
  · exact .zero
  · exact .finite

theorem unsigned_normalize {n : Int} (h : 0 ≤ n) (e : Int) :
    Unsigned (UnpackedFloat.normalize spec n e .positive) := by
  rw [UnpackedFloat.normalize]
  split
  · rename_i hlt
    rw [Int.compare_eq_lt] at hlt
    omega
  · exact .zero
  · exact unsigned_roundWithAccuracy _ _ _

theorem unsigned_add (hu : Unsigned u) (hv : Unsigned v) :
    Unsigned (UnpackedFloat.add spec u v) := by
  cases hu with
  | notANumber => exact .notANumber
  | infinity => cases hv <;> constructor
  | zero => cases hv <;> constructor
  | finite =>
      cases hv with
      | finite => exact unsigned_normalize (Int.add_nonneg (Int.natCast_nonneg _)
          (Int.natCast_nonneg _)) _
      | _ => constructor

theorem unsigned_mul (hu : Unsigned u) (hv : Unsigned v) :
    Unsigned (UnpackedFloat.mul spec u v) := by
  cases hu with
  | finite =>
      cases hv with
      | finite => exact unsigned_roundWithAccuracy _ _ _
      | _ => constructor
  | _ => cases hv <;> constructor

theorem unsigned_div (hu : Unsigned u) (hv : Unsigned v) :
    Unsigned (UnpackedFloat.div spec u v) := by
  cases hu with
  | finite =>
      cases hv with
      | finite => exact unsigned_roundWithAccuracy _ _ _
      | _ => constructor
  | _ => cases hv <;> constructor

theorem unsigned_add_zero (hu : Unsigned u) (s : Sign) :
    Unsigned (UnpackedFloat.add spec u (.zero s)) := by
  cases hu <;> cases s <;> constructor

theorem notNegative_add (hu : NotNegative u) (hv : NotNegative v) :
    NotNegative (UnpackedFloat.add spec u v) := by
  cases hu with
  | unsigned hu =>
      cases hv with
      | unsigned hv => exact .unsigned (unsigned_add hu hv)
      | zero => exact .unsigned (unsigned_add_zero hu _)
  | zero =>
      cases hv with
      | unsigned hv => cases hv <;> exact .unsigned (by constructor)
      | zero => exact .zero

theorem notNegative_zero (s : Sign) : NotNegative (.zero s) := by
  cases s with
  | positive => exact .unsigned .zero
  | negative => exact .zero

theorem notNegative_mul (hu : NotNegative u) (hv : NotNegative v) :
    NotNegative (UnpackedFloat.mul spec u v) := by
  cases hu with
  | unsigned hu =>
      cases hv with
      | unsigned hv => exact .unsigned (unsigned_mul hu hv)
      | zero =>
          cases hu with
          | notANumber | infinity => exact .unsigned .notANumber
          | zero | finite => exact notNegative_zero _
  | zero =>
      cases hv with
      | unsigned hv =>
          cases hv with
          | notANumber | infinity => exact .unsigned .notANumber
          | zero | finite => exact notNegative_zero _
      | zero => exact notNegative_zero _

theorem notNegative_div (hu : NotNegative u) (hv : Unsigned v) :
    NotNegative (UnpackedFloat.div spec u v) := by
  cases hu with
  | unsigned hu => exact .unsigned (unsigned_div hu hv)
  | zero =>
      cases hv with
      | notANumber | zero => exact .unsigned .notANumber
      | infinity | finite => exact notNegative_zero _

theorem unsigned_ofScientific (m : Nat) (e : Int) :
    Unsigned (UnpackedFloat.ofScientific spec m e) := by
  rw [UnpackedFloat.ofScientific]
  split_ifs
  · exact .zero
  · exact .infinity
  · exact .zero
  · exact unsigned_mul .finite .finite
  · exact unsigned_div .finite .finite

end Operations

/-! ### Packing -/

section Pack

variable {u : UnpackedFloat} {b : BitVec Format.binary64.numBits}

theorem unsigned_unpack (h : unpackSign b = 0#1) : Unsigned (unpack Format.binary64 b) := by
  have hsign : Sign.ofBitVec (unpackSign b) = .positive := if_pos h
  unfold UnpackedFloat.unpack
  dsimp only
  rw [hsign]
  split_ifs <;> constructor

theorem unsigned_unpack_pack (h : Unsigned u) :
    Unsigned (unpack Format.binary64 (UnpackedFloat.pack Format.binary64 u)) := by
  cases h with
  | notANumber | infinity | zero => exact unsigned_unpack (by decide)
  | finite =>
      refine unsigned_unpack ?_
      rw [UnpackedFloat.pack]
      dsimp only
      split_ifs
      · exact unpackSign_packComponents ..
      · exact unpackSign_packComponents ..
      · exact unpackSign_packComponents ..

theorem notNegative_unpack_pack (h : NotNegative u) :
    NotNegative (unpack Format.binary64 (UnpackedFloat.pack Format.binary64 u)) := by
  cases h with
  | unsigned h => exact .unsigned (unsigned_unpack_pack h)
  | zero => exact .zero

end Pack

/-! ### Numbers -/

theorem not_notNegative_infinity : ¬ NotNegative (.infinity .negative) := by
  rintro (h | _)
  cases h

theorem not_notNegative_finite {m : Nat} {e : Int} {hm : 0 < m} :
    ¬ NotNegative (.finite .negative m e hm) := by
  rintro (h | _)
  cases h

theorem notNegative_iff_place {u : UnpackedFloat} (hu : Unpacked u) :
    NotNegative u ↔ ∀ p ∈ unpackedPlace? u, 0 ≤ p := by
  cases hu with
  | notANumber => exact iff_of_true (.unsigned .notANumber) (by simp [unpackedPlace?])
  | zero s => exact iff_of_true (notNegative_zero s) (by simp [unpackedPlace?])
  | infinity s =>
      cases s with
      | positive => exact iff_of_true (.unsigned .infinity) (by simp [unpackedPlace?, Sign.apply])
      | negative =>
          exact iff_of_false not_notNegative_infinity (by simp [unpackedPlace?, Sign.apply])
  | @finite s m e hm h =>
      have hbounds := h.place_bounds hm
      cases s with
      | positive =>
          refine iff_of_true (.unsigned .finite) fun p hp => ?_
          cases hp
          exact Int.le_of_lt hbounds.1
      | negative =>
          refine iff_of_false not_notNegative_finite fun hplace => ?_
          have hneg := hplace _ rfl
          simp only [Sign.apply] at hneg
          omega

section Numbers

variable {x y : Float}

theorem unsigned_of_signBit (h : signBit x = false) : Unsigned x.toModel.unpack := by
  refine unsigned_unpack (BitVec.eq_of_toNat_eq ?_)
  exact (toNat_signField x).trans (by rw [h]; rfl)

theorem not_lt_zero_iff : ¬ x < 0.0 ↔ NotNegative x.toModel.unpack := by
  obtain ⟨hunpacked, hplace⟩ := unpack_place x
  have hzero : isNaN 0.0 = false ∧ rank 0.0 = 0 := by decide
  rw [notNegative_iff_place hunpacked, hplace, lt_iff, hzero.1, hzero.2]
  cases isNaN x <;> simp

theorem not_lt_zero_of_unsigned (h : Unsigned x.toModel.unpack) : ¬ x < 0.0 :=
  not_lt_zero_iff.2 (.unsigned h)

theorem unsigned_float_add (hx : Unsigned x.toModel.unpack) (hy : Unsigned y.toModel.unpack) :
    Unsigned (x + y).toModel.unpack :=
  unsigned_unpack_pack (unsigned_add hx hy)

theorem unsigned_float_mul (hx : Unsigned x.toModel.unpack) (hy : Unsigned y.toModel.unpack) :
    Unsigned (x * y).toModel.unpack :=
  unsigned_unpack_pack (unsigned_mul hx hy)

theorem unsigned_toFloat (n : Nat) : Unsigned n.toFloat.toModel.unpack := by
  have hnat : n.toFloat = Float.ofScientific n false 0 := rfl
  rw [hnat, Float.ofScientific]
  split
  · have hword : Unsigned n.toUInt64.toFloat.toModel.unpack :=
      unsigned_unpack_pack (unsigned_normalize (Int.natCast_nonneg _) _)
    have hone : Unsigned (Float.ofBits 0x3FF0000000000000).toModel.unpack :=
      unsigned_of_signBit (by decide)
    exact unsigned_float_mul hword hone
  · exact unsigned_unpack_pack (unsigned_ofScientific _ _)

theorem not_lt_zero_add (hx : ¬ x < 0.0) (hy : ¬ y < 0.0) : ¬ x + y < 0.0 := by
  rw [not_lt_zero_iff] at *
  exact notNegative_unpack_pack (notNegative_add hx hy)

theorem not_lt_zero_mul (hx : ¬ x < 0.0) (hy : ¬ y < 0.0) : ¬ x * y < 0.0 := by
  rw [not_lt_zero_iff] at *
  exact notNegative_unpack_pack (notNegative_mul hx hy)

theorem not_lt_zero_div (hx : ¬ x < 0.0) (hy : Unsigned y.toModel.unpack) : ¬ x / y < 0.0 := by
  rw [not_lt_zero_iff] at *
  exact notNegative_unpack_pack (notNegative_div hx hy)

end Numbers

end LossPrevention.Binary64
