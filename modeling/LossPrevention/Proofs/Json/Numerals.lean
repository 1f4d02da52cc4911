import LossPrevention.Json.Printer
import Mathlib.Data.List.TakeWhile

/-!
The characters that numbers are written with. No other character is in the text of a number, the
text of a float has a point or an exponent and the text of an integer has neither, and a minus
stands in front only if the number has that sign.
-/

namespace LossPrevention.Json

open Binary64

def isNumeral (c : Char) : Bool := c.isDigit || c = '-' || c = '+' || c = '.' || c = 'e'

def Numeric (cs : List Char) : Prop := ∀ c ∈ cs, isNumeral c = true

theorem numeric_nil : Numeric [] := nofun

@[simp] theorem numeric_cons_iff {c : Char} {cs : List Char} :
    Numeric (c :: cs) ↔ isNumeral c = true ∧ Numeric cs := List.forall_mem_cons

@[simp] theorem numeric_append_iff {cs ds : List Char} :
    Numeric (cs ++ ds) ↔ Numeric cs ∧ Numeric ds := List.forall_mem_append

/-- Digits and nothing else. -/
def Digits (ds : List Char) : Prop := ∀ c ∈ ds, c.isDigit = true

theorem Digits.numeric {ds : List Char} (h : Digits ds) : Numeric ds := by
  intro c hc
  simp [isNumeral, h c hc]

theorem digits_toDigits (n : Nat) : Digits (Nat.toDigits 10 n) :=
  fun _ hc => Nat.isDigit_of_mem_toDigits (by decide) (by decide) hc

theorem digits_zeros (n : Nat) : Digits (List.replicate n '0') := by
  intro c hc
  rw [List.eq_of_mem_replicate hc]
  rfl

theorem Digits.append {ds es : List Char} (hds : Digits ds) (hes : Digits es) :
    Digits (ds ++ es) := List.forall_mem_append.2 ⟨hds, hes⟩

theorem Digits.take {ds : List Char} (h : Digits ds) (n : Nat) : Digits (ds.take n) :=
  fun c hc => h c (List.mem_of_mem_take hc)

theorem Digits.drop {ds : List Char} (h : Digits ds) (n : Nat) : Digits (ds.drop n) :=
  fun c hc => h c (List.mem_of_mem_drop hc)

/-! ### Layouts -/

/-- The text of a float without its sign. -/
def magnitudeChars (x : Float) : List Char :=
  if significand x = 0 then ['0', '.', '0']
  else
    let (c, k) := Decimal.Shortest.decimal (significand x) (exponent x)
    let ds := Nat.toDigits 10 c
    let e := k + ds.length
    if -positionalZeros ≤ e ∧ e ≤ positionalLimit then positional ds e else scientific ds (e - 1)

theorem floatChars_eq (x : Float) :
    floatChars x = if signBit x then '-' :: magnitudeChars x else magnitudeChars x := rfl

/-- What holds of every layout of digits holds of the text of a float. -/
theorem magnitudeChars_induct {P : List Char → Prop} (x : Float)
    (hpositional : ∀ {ds}, ds ≠ [] → Digits ds → ∀ e, P (positional ds e))
    (hscientific : ∀ {ds}, ds ≠ [] → Digits ds → ∀ e, P (scientific ds e)) :
    P (magnitudeChars x) := by
  rw [magnitudeChars]
  split
  · exact hpositional (List.cons_ne_nil '0' []) (digits_zeros 1) 1
  · dsimp only
    split
    · exact hpositional Nat.toDigits_ne_nil (digits_toDigits _) _
    · exact hscientific Nat.toDigits_ne_nil (digits_toDigits _) _

section Layout

variable {ds : List Char} (hne : ds ≠ []) (h : Digits ds)

include h

theorem numeric_positional (e : Int) : Numeric (positional ds e) := by
  have hpoint : isNumeral '.' = true := rfl
  have hzero : isNumeral '0' = true := rfl
  rw [positional]
  split
  · simp [h.numeric, (digits_zeros _).numeric, hpoint, hzero]
  · dsimp only
    split
    · simp [h.numeric, (digits_zeros _).numeric, hpoint, hzero, numeric_nil]
    · simp [(h.take _).numeric, (h.drop _).numeric, hpoint]

theorem numeric_scientific (e : Int) : Numeric (scientific ds e) := by
  have hscale : Numeric ('e' :: (if e < 0 then '-' else '+') :: Nat.toDigits 10 e.natAbs) := by
    split <;> simp [(digits_toDigits _).numeric, isNumeral]
  match ds, h with
  | [], _ => exact hscale
  | [_], h => exact numeric_append_iff.2 ⟨h.numeric, hscale⟩
  | d :: d' :: rest, h =>
      have hdigits := h.numeric
      have hpoint : isNumeral '.' = true := rfl
      have hlead : Numeric (d :: '.' :: d' :: rest) := by
        simp only [numeric_cons_iff] at hdigits ⊢
        exact ⟨hdigits.1, hpoint, hdigits.2⟩
      exact numeric_append_iff.2 ⟨hlead, hscale⟩

include hne

theorem first_positional (e : Int) :
    ∃ c rest, positional ds e = c :: rest ∧ c.isDigit = true := by
  obtain ⟨d, others, rfl⟩ := List.exists_cons_of_ne_nil hne
  have hd := h d List.mem_cons_self
  rw [positional]
  split
  · exact ⟨_, _, rfl, rfl⟩
  · rename_i he
    obtain ⟨n, hn⟩ := Nat.exists_eq_succ_of_ne_zero (by omega : e.toNat ≠ 0)
    dsimp only
    split
    · exact ⟨_, _, rfl, hd⟩
    · rw [hn, Nat.succ_eq_add_one, List.take_succ_cons]
      exact ⟨_, _, rfl, hd⟩

theorem first_scientific (e : Int) :
    ∃ c rest, scientific ds e = c :: rest ∧ c.isDigit = true := by
  match ds, hne, h with
  | [d], _, h => exact ⟨_, _, rfl, h d List.mem_cons_self⟩
  | d :: _ :: _, _, h => exact ⟨_, _, rfl, h d List.mem_cons_self⟩

end Layout

theorem point_mem_positional (ds : List Char) (e : Int) : '.' ∈ positional ds e := by
  rw [positional]
  split
  · simp
  · dsimp only
    split <;> simp

theorem exponent_mem_scientific : ∀ (ds : List Char) (e : Int), 'e' ∈ scientific ds e
  | [], _ => List.mem_cons_self
  | [_], _ => List.mem_append_right _ List.mem_cons_self
  | _ :: _ :: _, _ => List.mem_append_right _ List.mem_cons_self

/-! ### Floats and integers -/

/-- A minus in front is told from the digits without one. -/
theorem signed_inj {p q : Prop} [Decidable p] [Decidable q] {cs ds : List Char}
    (hcs : ∃ c rest, cs = c :: rest ∧ c.isDigit = true)
    (hds : ∃ c rest, ds = c :: rest ∧ c.isDigit = true)
    (h : (if p then '-' :: cs else cs) = if q then '-' :: ds else ds) : (p ↔ q) ∧ cs = ds := by
  have hminus {es rest : List Char} (hes : ∃ c rest, es = c :: rest ∧ c.isDigit = true) :
      es ≠ '-' :: rest := by
    obtain ⟨c, rest, rfl, hdigit⟩ := hes
    rintro ⟨⟩
    cases hdigit
  split at h <;> split at h
  · rename_i hp hq
    exact ⟨iff_of_true hp hq, (List.cons.inj h).2⟩
  · exact absurd h.symm (hminus hds)
  · exact absurd h (hminus hcs)
  · rename_i hp hq
    exact ⟨iff_of_false hp hq, h⟩

theorem first_magnitudeChars (x : Float) :
    ∃ c rest, magnitudeChars x = c :: rest ∧ c.isDigit = true :=
  magnitudeChars_induct (P := fun cs => ∃ c rest, cs = c :: rest ∧ c.isDigit = true) x
    (fun hne h e => first_positional hne h e) (fun hne h e => first_scientific hne h e)

theorem numeric_floatChars (x : Float) : Numeric (floatChars x) := by
  have hmagnitude : Numeric (magnitudeChars x) :=
    magnitudeChars_induct x (fun _ h e => numeric_positional h e)
      (fun _ h e => numeric_scientific h e)
  rw [floatChars_eq]
  split
  · exact numeric_cons_iff.2 ⟨rfl, hmagnitude⟩
  · exact hmagnitude

theorem point_or_exponent_mem_floatChars (x : Float) :
    '.' ∈ floatChars x ∨ 'e' ∈ floatChars x := by
  have hmagnitude : '.' ∈ magnitudeChars x ∨ 'e' ∈ magnitudeChars x :=
    magnitudeChars_induct (P := fun cs => '.' ∈ cs ∨ 'e' ∈ cs) x
      (fun _ _ e => .inl (point_mem_positional _ e))
      (fun _ _ e => .inr (exponent_mem_scientific _ e))
  rw [floatChars_eq]
  split
  · exact hmagnitude.imp (List.mem_cons_of_mem _) (List.mem_cons_of_mem _)
  · exact hmagnitude

theorem mem_intChars {c : Char} {n : Int} (h : c ∈ intChars n) : c = '-' ∨ c.isDigit = true := by
  rw [intChars] at h
  split at h
  · exact (List.mem_cons.1 h).imp id (digits_toDigits _ c)
  · exact .inr (digits_toDigits _ c h)

theorem numeric_intChars (n : Int) : Numeric (intChars n) := by
  intro c hc
  rcases mem_intChars hc with rfl | hdigit
  · rfl
  · simp [isNumeral, hdigit]

theorem first_toDigits (n : Nat) :
    ∃ c rest, Nat.toDigits 10 n = c :: rest ∧ c.isDigit = true := by
  obtain ⟨c, rest, h⟩ := List.exists_cons_of_ne_nil (Nat.toDigits_ne_nil (n := n) (b := 10))
  exact ⟨c, rest, h, digits_toDigits n c (h ▸ List.mem_cons_self)⟩

namespace Number

theorem numeric_chars {n : Number} (h : ∀ x, n = .float x → isFinite x = true) :
    Numeric n.chars := by
  cases n with
  | int n => exact numeric_intChars n
  | float x =>
      rw [chars, if_pos (h x rfl)]
      exact numeric_floatChars x

/-- A number begins with a minus or a digit. -/
theorem first_chars {n : Number} (h : ∀ x, n = .float x → isFinite x = true) :
    ∃ c rest, n.chars = c :: rest ∧ (c = '-' ∨ c.isDigit = true) := by
  cases n with
  | int n =>
      rw [chars, intChars]
      split
      · exact ⟨_, _, rfl, .inl rfl⟩
      · obtain ⟨c, rest, heq, hdigit⟩ := first_toDigits n.natAbs
        exact ⟨c, rest, heq, .inr hdigit⟩
  | float x =>
      rw [chars, if_pos (h x rfl), floatChars_eq]
      split
      · exact ⟨_, _, rfl, .inl rfl⟩
      · obtain ⟨c, rest, heq, hdigit⟩ := first_magnitudeChars x
        exact ⟨c, rest, heq, .inr hdigit⟩

end Number

end LossPrevention.Json
