import LossPrevention.Proofs.Binary64.Parts
import LossPrevention.Proofs.Decimal.Shortest
import LossPrevention.Proofs.Json.Numerals
import LossPrevention.Proofs.Text.Digits

/-!
Binary numbers in JSON text. The text of a finite number says in decimal notation what the shortest
digits are worth, with a point or an exponent however it is laid out. Main statement: different
finite numbers have different texts, and none of these is the text of an integer.
-/

namespace LossPrevention.Json

open Binary64
open Text (digitsValue)
open Decimal.Shortest (Fitting interval decimal)

/-! ### Decimal notation -/

theorem digitsValue_append_zeros (ds : List Char) (n : Nat) :
    digitsValue (ds ++ List.replicate n '0') = digitsValue ds * 10 ^ n := by
  rw [Text.digitsValue_eq, Nat.ofDigitChars_append, Nat.ofDigitChars_replicate_zero,
    Text.digitsValue_eq, Nat.mul_comm]

theorem digitsValue_zeros_append (n : Nat) (ds : List Char) :
    digitsValue (List.replicate n '0' ++ ds) = digitsValue ds := by
  rw [Text.digitsValue_eq, Nat.ofDigitChars_append, Nat.ofDigitChars_replicate_zero, Nat.mul_zero,
    Text.digitsValue_eq]

/-- The power of ten that stands behind the digits. -/
def power : List Char → Int
  | 'e' :: '-' :: ds => -(digitsValue ds : Int)
  | 'e' :: '+' :: ds => digitsValue ds
  | _ => 0

theorem power_scale (e : Int) :
    power ('e' :: (if e < 0 then '-' else '+') :: Nat.toDigits 10 e.natAbs) = e := by
  split
  · rw [power, Text.digitsValue_toDigits]
    omega
  · rw [power, Text.digitsValue_toDigits]
    omega

/-- What decimal notation says: some digits with a point among them, and a power of ten. -/
def notated (cs : List Char) : ℚ :=
  let mantissa := cs.takeWhile (· ≠ 'e')
  let whole := mantissa.takeWhile (· ≠ '.')
  let fraction := (mantissa.dropWhile (· ≠ '.')).tail
  digitsValue (whole ++ fraction) * 10 ^ (power (cs.dropWhile (· ≠ 'e')) - fraction.length)

theorem takeWhile_of_head {x : Char} {cs : List Char} (h : ∀ c ∈ cs.head?, c = x) :
    cs.takeWhile (· ≠ x) = [] ∧ cs.dropWhile (· ≠ x) = cs := by
  cases cs with
  | nil => exact ⟨rfl, rfl⟩
  | cons c rest =>
      obtain rfl := h c rfl
      simp

/-- The three parts of a number are told apart by the signs they begin with. -/
theorem notated_append (whole point scale : List Char) (hwhole : Digits whole)
    (hpoint : Digits point.tail) (hlead : ∀ c ∈ point.head?, c = '.')
    (hscale : ∀ c ∈ scale.head?, c = 'e') :
    notated (whole ++ point ++ scale) =
      digitsValue (whole ++ point.tail) * 10 ^ (power scale - point.tail.length) := by
  have hdigit {c : Char} (h : c.isDigit = true) : c ≠ 'e' ∧ c ≠ '.' := by
    constructor <;> rintro rfl <;> cases h
  have hmantissa : ∀ c ∈ whole ++ point, decide (c ≠ 'e') = true := by
    intro c hc
    rcases List.mem_append.1 hc with hc | hc
    · exact decide_eq_true (hdigit (hwhole c hc)).1
    · cases point with
      | nil => cases hc
      | cons p rest =>
          rcases List.mem_cons.1 hc with rfl | hc
          · rw [hlead c rfl]
            decide
          · exact decide_eq_true (hdigit (hpoint c hc)).1
  have hwhole' : ∀ c ∈ whole, decide (c ≠ '.') = true :=
    fun c hc => decide_eq_true (hdigit (hwhole c hc)).2
  obtain ⟨htake, hdrop⟩ := takeWhile_of_head hscale
  obtain ⟨htake', hdrop'⟩ := takeWhile_of_head hlead
  simp only [notated, List.takeWhile_append_of_pos hmantissa,
    List.dropWhile_append_of_pos hmantissa, htake, hdrop, List.append_nil,
    List.takeWhile_append_of_pos hwhole', List.dropWhile_append_of_pos hwhole', htake', hdrop']

theorem notated_positional {ds : List Char} (hds : Digits ds) (e : Int) :
    notated (positional ds e) = digitsValue ds * 10 ^ (e - ds.length) := by
  rw [positional]
  split
  · rename_i he
    have hvalue : digitsValue (['0'] ++ (List.replicate e.natAbs '0' ++ ds)) = digitsValue ds :=
      digitsValue_zeros_append (e.natAbs + 1) ds
    have h := notated_append ['0'] ('.' :: (List.replicate e.natAbs '0' ++ ds)) []
      (digits_zeros 1) ((digits_zeros _).append hds) (by simp) (by simp)
    rw [List.append_nil, List.tail_cons, hvalue] at h
    refine h.trans ?_
    congr 2
    simp only [power, List.length_append, List.length_replicate]
    omega
  · rename_i he
    dsimp only
    split
    · rename_i hlength
      have hvalue : digitsValue (ds ++ List.replicate (e.toNat - ds.length) '0' ++ ['0']) =
          digitsValue ds * 10 ^ (e.toNat - ds.length + 1) := by
        rw [List.append_assoc, ← List.replicate_succ']
        exact digitsValue_append_zeros ds _
      have hpower : e - ds.length = ((e.toNat - ds.length + 1 : Nat) : Int) + (0 - 1) := by omega
      have h := notated_append (ds ++ List.replicate (e.toNat - ds.length) '0') ['.', '0'] []
        (hds.append (digits_zeros _)) (digits_zeros 1) (by simp) (by simp)
      rw [List.append_nil, List.tail_cons, hvalue] at h
      rw [h, hpower, zpow_add₀ (by norm_num), zpow_natCast, ← mul_assoc]
      push_cast
      rfl
    · rename_i hlength
      have h := notated_append (ds.take e.toNat) ('.' :: ds.drop e.toNat) []
        (hds.take _) (hds.drop _) (by simp) (by simp)
      rw [List.append_nil, List.tail_cons, List.take_append_drop] at h
      refine h.trans ?_
      congr 2
      simp only [power, List.length_drop]
      omega

theorem notated_scientific {ds : List Char} (hne : ds ≠ []) (hds : Digits ds)
    (e : Int) : notated (scientific ds e) = digitsValue ds * 10 ^ (e + 1 - ds.length) := by
  have hpower := power_scale e
  match ds, hne, hds with
  | [d], _, hds =>
      have h := notated_append [d] []
        ('e' :: (if e < 0 then '-' else '+') :: Nat.toDigits 10 e.natAbs) hds nofun nofun (by simp)
      rw [hpower] at h
      refine h.trans ?_
      simp
  | d :: d' :: rest, _, hds =>
      have h := notated_append [d] ('.' :: d' :: rest)
        ('e' :: (if e < 0 then '-' else '+') :: Nat.toDigits 10 e.natAbs)
        (hds.take 1) (hds.drop 1) (by simp) (by simp)
      rw [hpower] at h
      refine h.trans ?_
      rw [List.tail_cons, List.singleton_append]
      congr 2
      simp only [List.length_cons]
      omega

/-! ### The value of a text -/

theorem fitting_of_significand {x : Float} (h : significand x ≠ 0) :
    Fitting (significand x) (exponent x) := by
  have hfraction := fractionBits_lt x
  have h52 : Nat.pow 2 52 = 2 ^ 52 := rfl
  rw [significand, exponent, h52] at *
  split at h
  · rename_i hzero
    rw [if_pos hzero, if_pos hzero]
    exact ⟨Nat.pos_of_ne_zero h, by omega, by omega, by omega⟩
  · rename_i hzero
    rw [if_neg hzero, if_neg hzero]
    exact ⟨by omega, by omega, by omega, by omega⟩

theorem notated_magnitudeChars {x : Float} (h : significand x ≠ 0) :
    notated (magnitudeChars x) =
      (decimal (significand x) (exponent x)).1 *
        10 ^ (decimal (significand x) (exponent x)).2 := by
  rw [magnitudeChars, if_neg h]
  generalize decimal (significand x) (exponent x) = d
  obtain ⟨c, k⟩ := d
  have hdigits := digits_toDigits c
  dsimp only
  split
  · rw [notated_positional hdigits, Text.digitsValue_toDigits, Int.add_sub_cancel]
  · rw [notated_scientific Nat.toDigits_ne_nil hdigits, Text.digitsValue_toDigits]
    congr 2
    omega

/-- What the text says is a number whose nearest binary number is the one written. -/
theorem holds_magnitudeChars {x : Float} (h : significand x ≠ 0) :
    (interval (significand x) (exponent x)).Holds (notated (magnitudeChars x)) := by
  rw [notated_magnitudeChars h]
  exact Decimal.Shortest.holds_decimal (fitting_of_significand h)

theorem notated_magnitudeChars_eq_zero_iff {x : Float} :
    notated (magnitudeChars x) = 0 ↔ significand x = 0 := by
  constructor
  · intro hzero
    by_contra h
    have hpos := Decimal.Shortest.pos_of_holds (fitting_of_significand h) (holds_magnitudeChars h)
    exact absurd hzero hpos.ne'
  · intro h
    rw [magnitudeChars, if_pos h]
    have hvalue := notated_append ['0'] ['.', '0'] [] (digits_zeros 1) (digits_zeros 1) (by simp)
      (by simp)
    have hdigits : digitsValue (['0'] ++ ['0']) = 0 := rfl
    rw [List.tail_cons, hdigits, Nat.cast_zero, zero_mul] at hvalue
    exact hvalue

/-! ### Different numbers -/

theorem floatChars_inj {x y : Float} (h : floatChars x = floatChars y) : x = y := by
  rw [floatChars_eq, floatChars_eq] at h
  obtain ⟨hsign, hmagnitude⟩ := signed_inj (first_magnitudeChars x) (first_magnitudeChars y) h
  have hsign : signBit x = signBit y := Bool.eq_iff_iff.2 hsign
  by_cases hzero : significand x = 0
  · have hzero' : significand y = 0 := by
      rwa [← notated_magnitudeChars_eq_zero_iff, ← hmagnitude, notated_magnitudeChars_eq_zero_iff]
    have hexponent : exponent x = exponent y := by
      rw [exponent_of_significand hzero, exponent_of_significand hzero']
    exact eq_of_parts hsign (hzero.trans hzero'.symm) hexponent
  · have hzero' : significand y ≠ 0 := by
      rwa [ne_eq, ← notated_magnitudeChars_eq_zero_iff, ← hmagnitude,
        notated_magnitudeChars_eq_zero_iff]
    have hholds := holds_magnitudeChars hzero
    rw [hmagnitude] at hholds
    obtain ⟨hsignificand, hexponent⟩ := Decimal.Shortest.eq_of_holds (fitting_of_significand hzero)
      (fitting_of_significand hzero') hholds (holds_magnitudeChars hzero')
    exact eq_of_parts hsign hsignificand hexponent

theorem intChars_inj {m n : Int} (h : intChars m = intChars n) : m = n := by
  obtain ⟨hsign, hdigits⟩ := signed_inj (first_toDigits m.natAbs) (first_toDigits n.natAbs) h
  have habs : m.natAbs = n.natAbs := by
    rw [← Text.digitsValue_toDigits m.natAbs, hdigits, Text.digitsValue_toDigits]
  omega

theorem intChars_ne_floatChars (n : Int) (x : Float) : intChars n ≠ floatChars x := by
  intro h
  have hplain {c : Char} (hc : c ∈ floatChars x) : c = '-' ∨ c.isDigit = true :=
    mem_intChars (h ▸ hc)
  rcases point_or_exponent_mem_floatChars x with hpoint | hexponent
  · exact absurd (hplain hpoint) (by decide)
  · exact absurd (hplain hexponent) (by decide)

theorem Number.chars_inj {m n : Number} (hm : ∀ x, m = .float x → isFinite x = true)
    (hn : ∀ x, n = .float x → isFinite x = true) (h : m.chars = n.chars) : m = n := by
  have hfloat {x : Float} (hx : isFinite x = true) : (Number.float x).chars = floatChars x :=
    if_pos hx
  cases m with
  | int m =>
    cases n with
    | int n => exact congrArg int (intChars_inj h)
    | float y =>
      rw [hfloat (hn y rfl)] at h
      exact absurd h (intChars_ne_floatChars m y)
  | float x =>
    rw [hfloat (hm x rfl)] at h
    cases n with
    | int n => exact absurd h.symm (intChars_ne_floatChars n x)
    | float y =>
      rw [hfloat (hn y rfl)] at h
      exact congrArg float (floatChars_inj h)

end LossPrevention.Json
