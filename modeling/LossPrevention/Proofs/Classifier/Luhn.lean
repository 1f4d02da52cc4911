import LossPrevention.Classifier.Luhn
import Mathlib.Algebra.Group.Nat.Defs
import Mathlib.Data.Nat.Bits
import Mathlib.Logic.ExistsUnique

/-!
What the checksum of card numbers notices. A digit counts as its place from the right says, and
digits behind it only shift the places in front of them. Main statement: every number has one check
digit, no other digit can stand for one of a valid number, and two neighbours cannot change places
unless they are 0 and 9; separators make no difference.
-/

namespace LossPrevention.Classifier.Luhn

open Text (digitValue)

/-! ### Sums of digits -/

/-- What a digit adds to the sum. -/
def weight (doubled : Bool) (d : Nat) : Nat := if doubled then double d else d

theorem weightedSum_cons (doubled : Bool) (d : Nat) (ds : List Nat) :
    weightedSum doubled (d :: ds) = weight doubled d + weightedSum (!doubled) ds := rfl

/-- Behind an odd number of digits it is the other ones that are doubled. -/
theorem weightedSum_append (doubled : Bool) (xs ys : List Nat) :
    weightedSum doubled (xs ++ ys) =
      weightedSum doubled xs + weightedSum (doubled ^^ xs.length.bodd) ys := by
  induction xs generalizing doubled with
  | nil => simp [weightedSum]
  | cons x xs ih =>
      have hturn : (!doubled ^^ xs.length.bodd) = (doubled ^^ (x :: xs).length.bodd) := by
        rw [List.length_cons, Nat.bodd_succ, Bool.not_xor, Bool.xor_not]
      rw [List.cons_append, weightedSum_cons, weightedSum_cons, ih, hturn, Nat.add_assoc]

theorem weight_lt : ∀ doubled, ∀ d < 10, weight doubled d < 10 := by decide

/-- Doubling only moves the digits around. -/
theorem weight_inj : ∀ doubled, ∀ d < 10, ∀ e < 10,
    weight doubled d = weight doubled e → d = e := by
  decide

/-- Of two different digits only 0 and 9 add the same when they change places. -/
theorem weight_swap : ∀ doubled, ∀ d < 10, ∀ e < 10,
    (weight doubled e + weight (!doubled) d) % 10 = (weight doubled d + weight (!doubled) e) % 10 ↔
      d = e ∨ d = 0 ∧ e = 9 ∨ d = 9 ∧ e = 0 := by
  decide

theorem weightedSum_le {ds : List Nat} (h : ∀ d ∈ ds, d < 10) (doubled : Bool) :
    weightedSum doubled ds ≤ 9 * ds.length := by
  induction ds generalizing doubled with
  | nil => exact Nat.le_refl 0
  | cons d ds ih =>
      obtain ⟨hd, hds⟩ := List.forall_mem_cons.1 h
      have hweight := weight_lt doubled d hd
      have hrest := ih hds (!doubled)
      rw [weightedSum_cons, List.length_cons]
      omega

/-! ### Numbers with separators -/

/-- A number without its separators. -/
def kept (number : List Char) : List Char := number.filter (fun c => !isSeparator c)

def digits (number : List Char) : List Nat := (kept number).map digitValue

def sum (number : List Char) : Nat := weightedSum false (digits number).reverse

/-- Whether the digits in front of these count the other way round. -/
def turns (number : List Char) : Bool := (digits number).length.bodd

/-- Digits, with separators anywhere. -/
def Readable (number : List Char) : Prop := ∀ c ∈ number, isSeparator c = true ∨ c.isDigit = true

instance (number : List Char) : Decidable (Readable number) := List.decidableBAll _ number

section Number

variable {front back gap number other : List Char} {c d : Char}

theorem not_isSeparator_of_isDigit (h : c.isDigit = true) : isSeparator c = false := by
  rw [isSeparator, Bool.or_eq_false_iff, decide_eq_false_iff_not, decide_eq_false_iff_not]
  constructor <;> rintro rfl <;> exact absurd h (by decide)

theorem digitValue_lt (h : c.isDigit = true) : digitValue c < 10 := by
  have hnine : c.toNat ≤ '0'.toNat + 9 := (Char.isDigit_iff_toNat.1 h).2
  rw [digitValue]
  omega

theorem digitValue_inj (hc : c.isDigit = true) (hd : d.isDigit = true)
    (h : digitValue c = digitValue d) : c = d := by
  have hzero : '0'.toNat ≤ c.toNat := (Char.isDigit_iff_toNat.1 hc).1
  have hzero' : '0'.toNat ≤ d.toNat := (Char.isDigit_iff_toNat.1 hd).1
  rw [digitValue, digitValue] at h
  exact Char.toNat_inj.1 (by omega)

theorem exists_digit : ∀ n < 10, (Nat.digitChar n).isDigit = true ∧
    digitValue (Nat.digitChar n) = n := by
  decide

theorem digits_append (front back : List Char) :
    digits (front ++ back) = digits front ++ digits back := by
  rw [digits, kept, List.filter_append, List.map_append]
  rfl

theorem digits_cons_of_isDigit (h : c.isDigit = true) (back : List Char) :
    digits (c :: back) = digitValue c :: digits back := by
  rw [digits, kept, List.filter_cons_of_pos (by rw [not_isSeparator_of_isDigit h]; rfl),
    List.map_cons]
  rfl

theorem digits_of_separators (h : ∀ x ∈ gap, isSeparator x = true) : digits gap = [] := by
  rw [digits, List.map_eq_nil_iff, kept, List.filter_eq_nil_iff]
  intro x hx
  rw [h x hx]
  decide

theorem Readable.digits_lt (h : Readable number) : ∀ n ∈ digits number, n < 10 := by
  intro n hn
  obtain ⟨c, hc, rfl⟩ := List.mem_map.1 hn
  obtain ⟨hmem, hsep⟩ := List.mem_filter.1 hc
  refine digitValue_lt ((h c hmem).resolve_left ?_)
  simpa using hsep

theorem valid_iff :
    valid number = true ↔ Readable number ∧ digits number ≠ [] ∧ sum number % 10 = 0 := by
  have hread : (kept number).all Char.isDigit = true ↔ Readable number := by
    rw [kept, List.all_filter, List.all_eq_true]
    refine forall₂_congr fun c _ => ?_
    rw [Bool.or_eq_true, Bool.not_not]
  have hsum : digitsValid (digits number) = true ↔ digits number ≠ [] ∧ sum number % 10 = 0 := by
    rw [digitsValid, Bool.and_eq_true, Bool.not_eq_true', List.isEmpty_eq_false_iff,
      decide_eq_true_iff]
    rfl
  rw [← hread, ← hsum, ← Bool.and_eq_true]
  rfl

/-- What stands behind a digit settles how the digit and all in front of it count. -/
theorem sum_append_cons (hc : c.isDigit = true) (front back : List Char) :
    sum (front ++ c :: back) = sum back + (weight (turns back) (digitValue c) +
      weightedSum (!turns back) (digits front).reverse) := by
  have hreverse : (digits (front ++ c :: back)).reverse =
      (digits back).reverse ++ digitValue c :: (digits front).reverse := by
    rw [digits_append, digits_cons_of_isDigit hc, List.reverse_append, List.reverse_cons,
      List.append_assoc, List.singleton_append]
  rw [sum, hreverse, weightedSum_append, List.length_reverse, Bool.false_xor, weightedSum_cons]
  rfl

theorem readable_append_cons :
    Readable (front ++ c :: back) ↔
      Readable front ∧ (isSeparator c = true ∨ c.isDigit = true) ∧ Readable back := by
  rw [Readable, List.forall_mem_append, List.forall_mem_cons]
  rfl

theorem digits_append_cons_ne_nil (hc : c.isDigit = true) :
    digits (front ++ c :: back) ≠ [] := by
  rw [digits_append, digits_cons_of_isDigit hc]
  exact List.append_ne_nil_of_right_ne_nil _ (List.cons_ne_nil _ _)

/-! ### Slips -/

/-- No digit can stand for another one. -/
theorem eq_of_valid (hc : c.isDigit = true) (hd : d.isDigit = true)
    (h : valid (front ++ c :: back) = true) (h' : valid (front ++ d :: back) = true) : c = d := by
  obtain ⟨-, -, hsum⟩ := valid_iff.1 h
  obtain ⟨-, -, hsum'⟩ := valid_iff.1 h'
  rw [sum_append_cons hc] at hsum
  rw [sum_append_cons hd] at hsum'
  generalize turns back = doubled at hsum hsum'
  have hweight := weight_lt doubled _ (digitValue_lt hc)
  have hweight' := weight_lt doubled _ (digitValue_lt hd)
  refine digitValue_inj hc hd (weight_inj doubled _ (digitValue_lt hc) _ (digitValue_lt hd) ?_)
  omega

theorem exists_check_digit (h : Readable number) :
    ∃ c : Char, c.isDigit = true ∧ valid (number ++ [c]) = true := by
  -- what the other digits add once the check digit has shifted them
  let rest := weightedSum true (digits number).reverse
  obtain ⟨hdigit, hvalue⟩ := exists_digit ((10 - rest % 10) % 10) (Nat.mod_lt _ (by decide))
  refine ⟨_, hdigit, valid_iff.2 ⟨?_, digits_append_cons_ne_nil hdigit, ?_⟩⟩
  · exact readable_append_cons.2 ⟨h, .inr hdigit, List.forall_mem_nil _⟩
  · have hsum : sum (number ++ [Nat.digitChar ((10 - rest % 10) % 10)]) =
        0 + (digitValue (Nat.digitChar ((10 - rest % 10) % 10)) + rest) :=
      sum_append_cons hdigit number []
    rw [hsum, hvalue]
    omega

theorem existsUnique_check_digit (h : Readable number) :
    ∃! c : Char, c.isDigit = true ∧ valid (number ++ [c]) = true := by
  obtain ⟨c, hc, hvalid⟩ := exists_check_digit h
  refine ⟨c, ⟨hc, hvalid⟩, ?_⟩
  rintro d ⟨hd, hvalid'⟩
  exact eq_of_valid hd hc hvalid' hvalid

/-- What two digits add that stand next to each other, up to separators. -/
theorem sum_pair (hgap : ∀ x ∈ gap, isSeparator x = true) (hc : c.isDigit = true)
    (hd : d.isDigit = true) (front back : List Char) :
    sum (front ++ c :: (gap ++ d :: back)) =
      sum back + weightedSum (turns back) (digits front).reverse +
        (weight (turns back) (digitValue d) + weight (!turns back) (digitValue c)) := by
  have hturns : turns (gap ++ d :: back) = !turns back := by
    rw [turns, digits_append, digits_of_separators hgap, List.nil_append,
      digits_cons_of_isDigit hd, List.length_cons, Nat.bodd_succ]
    rfl
  rw [sum_append_cons hc, sum_append_cons hd, hturns, Bool.not_not, digits_of_separators hgap,
    List.reverse_nil, weightedSum]
  omega

theorem valid_swap_iff (hgap : ∀ x ∈ gap, isSeparator x = true) (hc : c.isDigit = true)
    (hd : d.isDigit = true) (h : valid (front ++ c :: (gap ++ d :: back)) = true) :
    valid (front ++ d :: (gap ++ c :: back)) = true ↔
      c = d ∨ c = '0' ∧ d = '9' ∨ c = '9' ∧ d = '0' := by
  obtain ⟨hread, -, hsum⟩ := valid_iff.1 h
  obtain ⟨hfront, -, hrest⟩ := readable_append_cons.1 hread
  obtain ⟨hseparated, -, hback⟩ := readable_append_cons.1 hrest
  have hswapped : Readable (front ++ d :: (gap ++ c :: back)) :=
    readable_append_cons.2 ⟨hfront, .inr hd, readable_append_cons.2 ⟨hseparated, .inr hc, hback⟩⟩
  have hvalid : valid (front ++ d :: (gap ++ c :: back)) = true ↔
      (weight (turns back) (digitValue c) + weight (!turns back) (digitValue d)) % 10 =
        (weight (turns back) (digitValue d) + weight (!turns back) (digitValue c)) % 10 := by
    rw [sum_pair hgap hc hd] at hsum
    rw [valid_iff, sum_pair hgap hd hc]
    constructor
    · rintro ⟨-, -, hsum'⟩
      omega
    · exact fun heq => ⟨hswapped, digits_append_cons_ne_nil hd, by omega⟩
  have hvalue {x y : Char} (hx : x.isDigit = true) (hy : y.isDigit = true) :
      digitValue x = digitValue y ↔ x = y :=
    ⟨digitValue_inj hx hy, congrArg digitValue⟩
  have hzero : '0'.isDigit = true := by decide
  have hnine : '9'.isDigit = true := by decide
  rw [hvalid, weight_swap _ _ (digitValue_lt hd) _ (digitValue_lt hc), ← hvalue hc hd,
    ← hvalue hc hzero, ← hvalue hd hnine, ← hvalue hc hnine, ← hvalue hd hzero]
  have h0 : digitValue '0' = 0 := rfl
  have h9 : digitValue '9' = 9 := rfl
  omega

theorem valid_of_kept_eq (h : kept number = kept other) : valid number = valid other := by
  rw [kept, kept] at h
  rw [valid, valid, h]

theorem not_valid_of_sign (hsep : isSeparator c = false) (hdigit : c.isDigit = false) :
    valid (front ++ c :: back) = false := by
  rw [← Bool.not_eq_true, valid_iff]
  rintro ⟨hread, -⟩
  rcases (readable_append_cons.1 hread).2.1 with h | h
  · exact Bool.noConfusion (hsep.symm.trans h)
  · exact Bool.noConfusion (hdigit.symm.trans h)

theorem sum_le (h : Readable number) : sum number ≤ 9 * number.length := by
  have hlength : (digits number).reverse.length ≤ number.length := by
    rw [List.length_reverse, digits, List.length_map]
    exact List.length_filter_le ..
  have hsum : sum number ≤ 9 * (digits number).reverse.length :=
    weightedSum_le (fun n hn => h.digits_lt n (List.mem_reverse.1 hn)) false
  omega

end Number

/-- Every number has one check digit. A valid number does not stay valid when one of its digits is
replaced, and when two neighbours that differ change places it does so only for 0 and 9. Separators
make no difference, and no other sign can stand in a valid number. The sum of a number of fewer than
2 ^ 28 characters fits into a word of 32 bits. -/
theorem valid_detects_slips :
    (∀ number, Readable number → ∃! c : Char, c.isDigit = true ∧ valid (number ++ [c]) = true) ∧
    (∀ front back c d, c.isDigit = true → d.isDigit = true → c ≠ d →
      valid (front ++ c :: back) = true → valid (front ++ d :: back) = false) ∧
    (∀ front gap back c d, (∀ x ∈ gap, isSeparator x = true) → c.isDigit = true →
      d.isDigit = true → c ≠ d → valid (front ++ c :: (gap ++ d :: back)) = true →
      (valid (front ++ d :: (gap ++ c :: back)) = true ↔
        c = '0' ∧ d = '9' ∨ c = '9' ∧ d = '0')) ∧
    (∀ number other, kept number = kept other → valid number = valid other) ∧
    (∀ front back c, isSeparator c = false → c.isDigit = false →
      valid (front ++ c :: back) = false) ∧
    (∀ number, Readable number → number.length < 2 ^ 28 → sum number < 2 ^ 32) := by
  refine ⟨fun _ => existsUnique_check_digit, ?_, ?_, fun _ _ => valid_of_kept_eq,
    fun _ _ _ => not_valid_of_sign, ?_⟩
  · intro front back c d hc hd hne h
    rw [← Bool.not_eq_true]
    exact fun h' => hne (eq_of_valid hc hd h h')
  · intro front gap back c d hgap hc hd hne h
    rw [valid_swap_iff hgap hc hd h]
    exact or_iff_right hne
  · intro number hread hlength
    have hsum := sum_le hread
    omega

theorem valid_detects_slips_card :
    valid "4532-0151 1283-0366".toList = true ∧ valid "4532-0151 1283-0367".toList = false ∧
      valid "4532-0115 1283-0366".toList = false ∧ valid "4532-0151x1283-0366".toList = false ∧
      valid "4532015112830366".toList = true ∧ sum "4532-0151 1283-036".toList < 2 ^ 32 ∧
      ∃! c : Char, c.isDigit = true ∧ valid ("4532-0151 1283-036".toList ++ [c]) = true := by
  obtain ⟨hcheck, hreplace, hswap, hseparators, hsign, hsum⟩ := valid_detects_slips
  have hvalid : valid "4532-0151 1283-0366".toList = true := by decide
  have hread : Readable "4532-0151 1283-036".toList := by decide
  refine ⟨hvalid, ?_, ?_, ?_, ?_, hsum _ hread (by decide), hcheck _ hread⟩
  · exact hreplace "4532-0151 1283-036".toList [] '6' '7' (by decide) (by decide) (by decide) hvalid
  · have h := hswap "4532-01".toList [] " 1283-0366".toList '5' '1' nofun (by decide) (by decide)
      (by decide) hvalid
    rw [← Bool.not_eq_true]
    exact mt h.1 (by decide)
  · exact hsign "4532-0151".toList "1283-0366".toList 'x' (by decide) (by decide)
  · exact (hseparators _ "4532-0151 1283-0366".toList (by decide)).trans hvalid

end LossPrevention.Classifier.Luhn
