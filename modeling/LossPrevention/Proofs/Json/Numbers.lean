import LossPrevention.Json.Printer
import LossPrevention.Json.Reader
import LossPrevention.Proofs.Binary64.Finite
import LossPrevention.Proofs.Text.Digits
import Mathlib.Algebra.Group.Int.Defs
import Mathlib.Data.List.TakeDrop
import Mathlib.Data.List.TakeWhile

/-!
Numbers in JSON text. What is read is an integer of 64 bits or a finite binary number; such an
integer reads back, and a number reads the same in front of what ends it.
-/

namespace LossPrevention.Json

open Binary64

/-- The numbers that JSON text can hold. -/
def Number.Fits : Number → Prop
  | .int n => -2 ^ 63 ≤ n ∧ n < 2 ^ 64
  | .float x => isFinite x = true

namespace Reader

open Text (digitsValue)

/-! ### What is read -/

theorem fits_of_float? {negative : Bool} {whole ds : List Char} {e : Int} {n : Number}
    (h : float? negative whole ds e = some n) : n.Fits := by
  rw [float?] at h
  obtain ⟨x, hx, rfl⟩ := Option.map_eq_some_iff.1 h
  have hfinite : isFinite x = true := by
    rw [ofDigits?] at hx
    exact (Option.filter_eq_some_iff.1 hx).2
  cases negative with
  | false => exact hfinite
  | true => exact isFinite_negate hfinite

theorem fits_of_integer? {negative : Bool} {whole : List Char} {n : Number}
    (h : integer? negative whole = some n) : n.Fits := by
  have hword : Nat.pow 2 64 = 2 ^ 64 := rfl
  have hhalf : Nat.pow 2 63 = 2 ^ 63 := rfl
  rw [integer?] at h
  simp only [hword, hhalf] at h
  split at h
  · exact fits_of_float? h
  split at h
  · cases h
    simp only [Number.Fits]
    omega
  split at h
  · rename_i hlarge
    cases h
    rcases hlarge with hzero | hlarge
    · rw [hzero]
      exact isFinite_negate isFinite_ofInt_zero
    · exact isFinite_negate (isFinite_ofInt (by omega) (by omega))
  · cases h
    simp only [Number.Fits]
    omega

theorem fits_of_scaled? {negative : Bool} {whole ds cs rest : List Char} {n : Number}
    (h : scaled? negative whole ds cs = some (n, rest)) : n.Fits := by
  rw [scaled?.eq_def] at h
  split at h
  · obtain ⟨⟨e, after⟩, -, h⟩ := Option.bind_eq_some_iff.1 h
    obtain ⟨m, hm, h⟩ := Option.map_eq_some_iff.1 h
    cases h
    exact fits_of_float? hm
  · obtain ⟨⟨e, after⟩, -, h⟩ := Option.bind_eq_some_iff.1 h
    obtain ⟨m, hm, h⟩ := Option.map_eq_some_iff.1 h
    cases h
    exact fits_of_float? hm
  · obtain ⟨m, hm, h⟩ := Option.map_eq_some_iff.1 h
    cases h
    split at hm
    · exact fits_of_integer? hm
    · exact fits_of_float? hm

/-- Some digits, without a zero in front of others. -/
def Leads (whole : List Char) : Prop := whole ≠ [] ∧ (whole.head? = some '0' → whole.length = 1)

theorem number?_eq_some_iff {cs rest : List Char} {n : Number} :
    number? cs = some (n, rest) ↔
      Leads ((sign cs).2.takeWhile Char.isDigit) ∧
        ∃ ds after, point? ((sign cs).2.dropWhile Char.isDigit) = some (ds, after) ∧
          scaled? (sign cs).1 ((sign cs).2.takeWhile Char.isDigit) ds after = some (n, rest) := by
  rw [number?]
  dsimp only
  rw [List.span_eq_takeWhile_dropWhile]
  dsimp only
  generalize (sign cs).2.takeWhile Char.isDigit = whole
  have hleads : (whole.isEmpty || (whole.head? = some '0' && whole.length ≠ 1)) = true ↔
      ¬ Leads whole := by
    cases whole <;> simp [Leads]
  split
  · rename_i hbad
    exact ⟨nofun, fun h => absurd h.1 (hleads.1 hbad)⟩
  · rename_i hgood
    rw [and_iff_right (not_not.1 (mt hleads.2 hgood))]
    constructor
    · intro h
      obtain ⟨⟨ds, after⟩, hpoint, hscaled⟩ := Option.bind_eq_some_iff.1 h
      exact ⟨ds, after, hpoint, hscaled⟩
    · rintro ⟨ds, after, hpoint, hscaled⟩
      exact Option.bind_eq_some_iff.2 ⟨(ds, after), hpoint, hscaled⟩

theorem fits_of_number? {cs rest : List Char} {n : Number} (h : number? cs = some (n, rest)) :
    n.Fits := by
  obtain ⟨-, _, _, -, hscaled⟩ := number?_eq_some_iff.1 h
  exact fits_of_scaled? hscaled

/-! ### What ends a number -/

/-- The end of the text, or a character that ends an item or a field. -/
def Ends (rest : List Char) : Prop := ∀ c ∈ rest.head?, c = ',' ∨ c = ']' ∨ c = '}'

section Ends

variable {rest : List Char} (h : Ends rest)

include h

/-- What ends a number is no part of one. -/
theorem Ends.apart {c : Char} (hc : c ∈ rest.head?) :
    c.isDigit = false ∧ c ≠ '-' ∧ c ≠ '.' ∧ c ≠ 'e' ∧ c ≠ 'E' := by
  rcases h c hc with rfl | rfl | rfl <;> decide

theorem takeWhile_digits_append (cs : List Char) :
    (cs ++ rest).takeWhile Char.isDigit = cs.takeWhile Char.isDigit := by
  induction cs with
  | nil =>
      cases rest with
      | nil => rfl
      | cons c rest =>
          rw [List.nil_append, List.takeWhile_cons, (h.apart rfl).1]
          rfl
  | cons c cs ih => rw [List.cons_append, List.takeWhile_cons, List.takeWhile_cons, ih]

theorem dropWhile_digits_append (cs : List Char) :
    (cs ++ rest).dropWhile Char.isDigit = cs.dropWhile Char.isDigit ++ rest := by
  induction cs with
  | nil =>
      cases rest with
      | nil => rfl
      | cons c rest =>
          rw [List.nil_append, List.dropWhile_cons, (h.apart rfl).1]
          rfl
  | cons c cs ih =>
      rw [List.cons_append, List.dropWhile_cons, List.dropWhile_cons, ih]
      split <;> rfl

end Ends

/-! ### The parts of a number -/

theorem sign_of_ne {c : Char} (hc : c ≠ '-') (cs : List Char) :
    sign (c :: cs) = (false, c :: cs) := by
  rw [sign]
  exact fun _ heq => hc (List.cons.inj heq).1

theorem point?_of_ne {c : Char} (hc : c ≠ '.') (cs : List Char) :
    point? (c :: cs) = some ([], c :: cs) := by
  rw [point?]
  exact fun _ heq => hc (List.cons.inj heq).1

theorem exponentSign_of_ne {c : Char} (hminus : c ≠ '-') (hplus : c ≠ '+') (cs : List Char) :
    exponentSign (c :: cs) = (false, c :: cs) := by
  rw [exponentSign]
  · exact fun _ heq => hminus (List.cons.inj heq).1
  · exact fun _ heq => hplus (List.cons.inj heq).1

theorem scaled?_of_ne {c : Char} (he : c ≠ 'e') (hE : c ≠ 'E') (negative : Bool)
    (whole ds cs : List Char) :
    scaled? negative whole ds (c :: cs) = (if ds.isEmpty then integer? negative whole
      else float? negative whole ds 0).map (·, c :: cs) := by
  rw [scaled?]
  · exact fun _ heq => he (List.cons.inj heq).1
  · exact fun _ heq => hE (List.cons.inj heq).1

section Parts

variable {rest cs ds after : List Char} (h : Ends rest)

include h

theorem sign_append (cs : List Char) : sign (cs ++ rest) = ((sign cs).1, (sign cs).2 ++ rest) := by
  cases cs with
  | nil =>
      cases rest with
      | nil => rfl
      | cons c rest => exact sign_of_ne (h.apart rfl).2.1 rest
  | cons c cs =>
      by_cases hc : c = '-'
      · subst hc
        rfl
      · rw [List.cons_append, sign_of_ne hc, sign_of_ne hc]
        rfl

theorem fraction?_append (hf : fraction? cs = some (ds, after)) :
    fraction? (cs ++ rest) = some (ds, after ++ rest) := by
  rw [fraction?, List.span_eq_takeWhile_dropWhile] at hf ⊢
  dsimp only at hf ⊢
  rw [takeWhile_digits_append h, dropWhile_digits_append h]
  split at hf
  · cases hf
  · rename_i hds
    cases hf
    rw [if_neg hds]

theorem point?_append (hp : point? cs = some (ds, after)) :
    point? (cs ++ rest) = some (ds, after ++ rest) := by
  cases cs with
  | nil =>
      cases hp
      cases rest with
      | nil => rfl
      | cons c rest => exact point?_of_ne (h.apart rfl).2.2.1 rest
  | cons c cs =>
      by_cases hc : c = '.'
      · subst hc
        exact fraction?_append h hp
      · rw [point?_of_ne hc] at hp
        cases hp
        exact point?_of_ne hc (cs ++ rest)

omit h in
theorem exponentSign_append (c : Char) (cs rest : List Char) :
    exponentSign (c :: cs ++ rest) =
      ((exponentSign (c :: cs)).1, (exponentSign (c :: cs)).2 ++ rest) := by
  rw [List.cons_append]
  by_cases hminus : c = '-'
  · subst hminus
    rfl
  by_cases hplus : c = '+'
  · subst hplus
    rfl
  · rw [exponentSign_of_ne hminus hplus, exponentSign_of_ne hminus hplus]
    rfl

theorem exponent?_append {e : Int} (he : exponent? cs = some (e, after)) :
    exponent? (cs ++ rest) = some (e, after ++ rest) := by
  cases cs with
  | nil => cases he
  | cons c cs =>
      rw [exponent?] at he ⊢
      rw [exponentSign_append]
      simp only [List.span_eq_takeWhile_dropWhile, takeWhile_digits_append h,
        dropWhile_digits_append h] at he ⊢
      split at he
      · cases he
      · rename_i hds
        cases he
        rw [if_neg hds]

theorem scaled?_append {whole : List Char} {negative : Bool} {n : Number}
    (hs : scaled? negative whole ds cs = some (n, after)) :
    scaled? negative whole ds (cs ++ rest) = some (n, after ++ rest) := by
  cases cs with
  | nil =>
      obtain ⟨m, hm, hpair⟩ := Option.map_eq_some_iff.1 hs
      cases hpair
      cases rest with
      | nil => exact hs
      | cons c rest =>
          obtain ⟨-, -, -, he, hE⟩ := h.apart rfl
          rw [List.nil_append, scaled?_of_ne he hE, hm]
          rfl
  | cons c cs =>
      by_cases hexponent : c = 'e' ∨ c = 'E'
      · have hread (cs : List Char) : scaled? negative whole ds (c :: cs) =
            (exponent? cs).bind fun p => (float? negative whole ds p.1).map (·, p.2) := by
          rcases hexponent with rfl | rfl <;> rfl
        rw [hread] at hs
        obtain ⟨⟨e, after⟩, he, hs⟩ := Option.bind_eq_some_iff.1 hs
        obtain ⟨m, hm, hpair⟩ := Option.map_eq_some_iff.1 hs
        cases hpair
        rw [List.cons_append, hread, exponent?_append h he, Option.bind_some]
        dsimp only
        rw [hm]
        rfl
      · obtain ⟨he, hE⟩ := not_or.1 hexponent
        rw [scaled?_of_ne he hE] at hs
        obtain ⟨m, hm, hpair⟩ := Option.map_eq_some_iff.1 hs
        cases hpair
        rw [List.cons_append, scaled?_of_ne he hE, hm]
        rfl

end Parts

/-- A number reads the same in front of what ends it. -/
theorem number?_append {cs rest r : List Char} {n : Number} (h : number? cs = some (n, r))
    (hrest : Ends rest) : number? (cs ++ rest) = some (n, r ++ rest) := by
  obtain ⟨hleads, ds, after, hpoint, hscaled⟩ := number?_eq_some_iff.1 h
  rw [number?_eq_some_iff, sign_append hrest]
  dsimp only
  rw [takeWhile_digits_append hrest, dropWhile_digits_append hrest]
  exact ⟨hleads, ds, after ++ rest, point?_append hrest hpoint, scaled?_append hrest hscaled⟩

/-! ### Integers that are written -/

theorem leads_toDigits (n : Nat) : Leads (Nat.toDigits 10 n) := by
  refine ⟨Nat.toDigits_ne_nil, fun hhead => ?_⟩
  rcases Nat.eq_zero_or_pos n with rfl | hn
  · rfl
  · exact absurd hhead (Text.head?_toDigits_ne (Nat.pos_iff_ne_zero.1 hn))

theorem takeWhile_toDigits (n : Nat) :
    (Nat.toDigits 10 n).takeWhile Char.isDigit = Nat.toDigits 10 n ∧
      (Nat.toDigits 10 n).dropWhile Char.isDigit = [] := by
  have hdigits : ∀ c ∈ Nat.toDigits 10 n, c.isDigit = true :=
    fun c hc => Nat.isDigit_of_mem_toDigits (by decide) (by decide) hc
  exact ⟨List.takeWhile_eq_self_iff.2 hdigits, List.dropWhile_eq_nil_iff.2 hdigits⟩

theorem sign_toDigits (n : Nat) : sign (Nat.toDigits 10 n) = (false, Nat.toDigits 10 n) := by
  obtain ⟨c, cs, hcs⟩ := List.exists_cons_of_ne_nil (Nat.toDigits_ne_nil (n := n) (b := 10))
  have hdigit : c.isDigit = true :=
    Nat.isDigit_of_mem_toDigits (by decide) (by decide) (hcs ▸ List.mem_cons_self)
  rw [hcs]
  refine sign_of_ne ?_ cs
  rintro rfl
  cases hdigit

theorem number?_intChars {n : Int} (h : (Number.int n).Fits) :
    number? (intChars n) = some (.int n, []) := by
  obtain ⟨hlow, hhigh⟩ : -2 ^ 63 ≤ n ∧ n < 2 ^ 64 := h
  have hword : Nat.pow 2 64 = 2 ^ 64 := rfl
  have hhalf : Nat.pow 2 63 = 2 ^ 63 := rfl
  obtain ⟨htake, hdrop⟩ := takeWhile_toDigits n.natAbs
  have hscaled (negative : Bool) (hinteger : integer? negative (Nat.toDigits 10 n.natAbs) =
      some (.int n)) : scaled? negative (Nat.toDigits 10 n.natAbs) [] [] = some (.int n, []) := by
    rw [scaled?.eq_def]
    exact congrArg (Option.map (·, [])) hinteger
  rw [number?_eq_some_iff, intChars]
  split
  · have hminus : sign ('-' :: Nat.toDigits 10 n.natAbs) = (true, Nat.toDigits 10 n.natAbs) := rfl
    rw [hminus]
    dsimp only
    rw [htake, hdrop]
    refine ⟨leads_toDigits _, [], [], rfl, hscaled true ?_⟩
    rw [integer?, Text.digitsValue_toDigits, hword, hhalf, if_neg (by omega)]
    simp only [Bool.not_true, Bool.false_eq_true, if_false]
    rw [if_neg (by omega)]
    congr 2
    omega
  · rw [sign_toDigits]
    dsimp only
    rw [htake, hdrop]
    refine ⟨leads_toDigits _, [], [], rfl, hscaled false ?_⟩
    rw [integer?, Text.digitsValue_toDigits, hword, if_neg (by omega)]
    simp only [Bool.not_false, if_true]
    congr 2
    omega

end Reader

end LossPrevention.Json
