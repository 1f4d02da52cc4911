import LossPrevention.Text.Digits
import Mathlib.Algebra.Group.Nat.Defs
import Mathlib.Data.List.TakeWhile

/-!
Numbers filled up with zeros. They read back, so each number has one text of a given width, and a
run of digits at the end of a text can be told from what is in front of it.
-/

namespace LossPrevention.Text

theorem digitsValue_eq (ds : List Char) : digitsValue ds = Nat.ofDigitChars 10 ds 0 := by
  simp only [digitsValue, Nat.ofDigitChars, digitValue, Nat.mul_comm]

theorem digitsValue_toDigits (n : Nat) : digitsValue (Nat.toDigits 10 n) = n := by
  rw [digitsValue_eq, Nat.ofDigitChars_ten_toDigits]

/-- A number other than zero begins with another digit than zero. -/
theorem head?_toDigits_ne {n : Nat} (h : n ≠ 0) : (Nat.toDigits 10 n).head? ≠ some '0' := by
  induction n using Nat.strongRecOn with
  | ind n ih =>
    rcases Nat.lt_or_ge n 10 with hlt | hge
    · have hdigits : ∀ m : Fin 10, m.val ≠ 0 → Nat.digitChar m.val ≠ '0' := by decide
      rw [Nat.toDigits_of_lt_base hlt]
      exact fun heq => hdigits ⟨n, hlt⟩ h (Option.some.inj heq)
    · have hfirst := ih (n / 10) (by omega) (by omega)
      rw [Nat.toDigits_of_base_le (by decide) hge, List.head?_append]
      obtain ⟨c, cs, hcs⟩ := List.exists_cons_of_ne_nil (Nat.toDigits_ne_nil (n := n / 10) (b := 10))
      rw [hcs] at hfirst ⊢
      exact hfirst

theorem toList_padded (width n : Nat) :
    (padded width n).toList =
      List.replicate (width - (Nat.toDigits 10 n).length) '0' ++ Nat.toDigits 10 n := by
  have hpush (k : Nat) : ("".pushn '0' k).toList = List.replicate k '0' := by
    rw [String.pushn_eq_repeat_push]
    induction k with
    | zero => rfl
    | succ k ih => rw [Nat.repeat, String.toList_push, ih, ← List.replicate_succ']
  rw [padded, String.toList_append, hpush, Nat.toString_eq_repr, Nat.toList_repr,
    ← String.length_toList, Nat.toList_repr]

theorem isDigit_of_mem_padded {width n : Nat} {c : Char} (h : c ∈ (padded width n).toList) :
    c.isDigit = true := by
  rw [toList_padded, List.mem_append] at h
  rcases h with h | h
  · rw [List.eq_of_mem_replicate h]
    rfl
  · exact Nat.isDigit_of_mem_toDigits (by decide) (by decide) h

theorem ofDigitChars_padded (width n : Nat) :
    Nat.ofDigitChars 10 (padded width n).toList 0 = n := by
  rw [toList_padded, Nat.ofDigitChars_append, Nat.ofDigitChars_replicate_zero, Nat.mul_zero,
    Nat.ofDigitChars_ten_toDigits]

theorem padded_inj {width m n : Nat} (h : (padded width m).toList = (padded width n).toList) :
    m = n := by
  rw [← ofDigitChars_padded width m, h, ofDigitChars_padded]

theorem length_padded {width n : Nat} (hwidth : 0 < width) (h : n < 10 ^ width) :
    (padded width n).toList.length = width := by
  have hle := (Nat.length_toDigits_le_iff (by decide : 1 < 10) hwidth).2 h
  rw [toList_padded, List.length_append, List.length_replicate]
  omega

/-- A run of characters of one kind ends where another kind begins. -/
theorem takeWhile_append_of_head {p : Char → Bool} {xs ys : List Char}
    (hxs : ∀ x ∈ xs, p x = true) (hys : ∀ y ∈ ys.head?, p y = false) :
    (xs ++ ys).takeWhile p = xs := by
  rw [List.takeWhile_append_of_pos hxs]
  cases ys with
  | nil => exact List.append_nil xs
  | cons y ys => rw [List.takeWhile_cons, hys y rfl, if_neg Bool.false_ne_true, List.append_nil]

theorem dropWhile_append_of_head {p : Char → Bool} {xs ys : List Char}
    (hxs : ∀ x ∈ xs, p x = true) (hys : ∀ y ∈ ys.head?, p y = false) :
    (xs ++ ys).dropWhile p = ys := by
  rw [List.dropWhile_append_of_pos hxs]
  cases ys with
  | nil => rfl
  | cons y ys => rw [List.dropWhile_cons, hys y rfl, if_neg Bool.false_ne_true]

/-- Where two texts begin with digits and something else behind these, they have the same
digits. -/
theorem run_append_inj {ds es a b : List Char} {c d : Char} (hds : ∀ x ∈ ds, x.isDigit = true)
    (hes : ∀ x ∈ es, x.isDigit = true) (hc : c.isDigit = false) (hd : d.isDigit = false)
    (h : ds ++ c :: a = es ++ d :: b) : ds = es ∧ c = d ∧ a = b := by
  induction ds generalizing es with
  | nil =>
    cases es with
    | nil => exact ⟨rfl, List.cons.inj h⟩
    | cons e es =>
      have he := hes e List.mem_cons_self
      rw [← (List.cons.inj h).1, hc] at he
      cases he
  | cons x ds ih =>
    have hx := hds x List.mem_cons_self
    cases es with
    | nil =>
      rw [(List.cons.inj h).1, hd] at hx
      cases hx
    | cons e es =>
      obtain ⟨hxe, hrest⟩ := List.cons.inj h
      obtain ⟨hrun, htail⟩ := ih (fun y hy => hds y (List.mem_cons_of_mem _ hy))
        (fun y hy => hes y (List.mem_cons_of_mem _ hy)) hrest
      exact ⟨by rw [hxe, hrun], htail⟩

/-- The same at the end of two texts. -/
theorem append_run_inj {ds es a b : List Char} {c d : Char} (hds : ∀ x ∈ ds, x.isDigit = true)
    (hes : ∀ x ∈ es, x.isDigit = true) (hc : c.isDigit = false) (hd : d.isDigit = false)
    (h : a ++ c :: ds = b ++ d :: es) : a = b ∧ c = d ∧ ds = es := by
  have hreverse : ds.reverse ++ c :: a.reverse = es.reverse ++ d :: b.reverse := by
    simpa using congrArg List.reverse h
  obtain ⟨hrun, hcd, hrest⟩ := run_append_inj (fun x hx => hds x (List.mem_reverse.1 hx))
    (fun x hx => hes x (List.mem_reverse.1 hx)) hc hd hreverse
  exact ⟨List.reverse_inj.1 hrest, hcd, List.reverse_inj.1 hrun⟩

end LossPrevention.Text
