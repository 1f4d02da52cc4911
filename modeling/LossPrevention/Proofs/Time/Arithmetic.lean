import LossPrevention.Time.Instant
import Mathlib.Tactic.Ring
import Mathlib.Tactic.Set

/-!
Instants outside leap seconds as numbers of nanoseconds. On those going back is subtraction, up to
the first instant there is; a leap second has no number that fits both its place in the order and
the steps that lead away from it.
-/

namespace LossPrevention.Time.Instant

/-- Nanoseconds since the beginning of 1970, leap seconds not counted. -/
def total (t : Instant) : Int := t.seconds * unit + t.nanos

/-- An instant that the calendar holds, outside leap seconds. -/
structure Regular (t : Instant) : Prop where
  representable : earliest ≤ t
  no_leap : t.nanos < unit

theorem le_iff_total {s t : Instant} (hs : s.nanos < unit) (ht : t.nanos < unit) :
    s ≤ t ↔ s.total ≤ t.total := by
  rw [← not_lt, lt_iff]
  simp only [total, unit] at *
  omega

theorem regular_earliest : Regular earliest where
  representable := le_refl _
  no_leap := by decide

theorem shift_back {t : Instant} (ht : t.nanos < unit) (seconds : Nat) :
    t.shift (-(seconds : Int)) 0 = ⟨t.seconds - seconds, t.nanos⟩ := by
  have hu : (0 : Int) < unit := by decide
  have hn : (0 : Int) ≤ t.nanos := Int.natCast_nonneg _
  have hlt : (t.nanos : Int) < unit := by exact_mod_cast ht
  rw [shift, if_pos ht]
  simp only [ofParts, Int.add_zero, ← Int.sub_eq_add_neg]
  rw [Int.add_comm, Int.add_mul_ediv_right _ _ (ne_of_gt hu), Int.ediv_eq_zero_of_lt hn hlt,
    Int.zero_add, Int.add_mul_emod_self_right, Int.emod_eq_of_lt hn hlt, Int.toNat_natCast]

/-- Stopping at the first instant changes nothing for what the calendar holds, leap seconds
included. -/
theorem back_le_iff_shift {s : Instant} (hs : earliest ≤ s) (t : Instant) (seconds : Nat) :
    t.back seconds ≤ s ↔ t.shift (-seconds) 0 ≤ s := by
  unfold back
  dsimp only
  split
  · rename_i hlt
    have hle : t.shift (-seconds) 0 ≤ earliest := by
      rw [← not_lt]
      rw [lt_iff] at hlt ⊢
      omega
    exact iff_of_true hs (le_trans hle hs)
  · exact Iff.rfl

/-- The cutoff of a window is subtraction; stopping at the first instant changes nothing for any
instant that the calendar holds. -/
theorem back_le_iff {s t : Instant} (hs : s.Regular) (ht : t.Regular) (seconds : Nat) :
    t.back seconds ≤ s ↔ t.total - seconds * unit ≤ s.total := by
  unfold back
  rw [shift_back ht.no_leap]
  set c : Instant := ⟨t.seconds - seconds, t.nanos⟩
  have hc : c.nanos < unit := ht.no_leap
  have htotal : c.total = t.total - seconds * unit := by simp only [c, total]; ring
  rw [← htotal]
  by_cases h : c < earliest
  · have hce : c.total < earliest.total := by
      rw [← Int.not_le, ← le_iff_total regular_earliest.no_leap hc]
      exact fun hle => not_lt.2 hle h
    have hes : earliest.total ≤ s.total :=
      (le_iff_total regular_earliest.no_leap hs.no_leap).1 hs.representable
    simp only [if_pos h, hs.representable, true_iff]
    omega
  · rw [if_neg h]
    exact le_iff_total hc hs.no_leap

theorem Regular.back {t : Instant} (h : t.Regular) (seconds : Nat) : (t.back seconds).Regular := by
  unfold Instant.back
  rw [shift_back h.no_leap]
  dsimp only
  split
  · exact regular_earliest
  · rename_i hn
    exact ⟨not_lt.1 hn, h.no_leap⟩

/-- Cutoffs never go back on a clock that never does. -/
theorem back_mono {s t : Instant} (hs : s.Regular) (ht : t.Regular) (h : s ≤ t) (seconds : Nat) :
    s.back seconds ≤ t.back seconds := by
  have htotal : s.total ≤ t.total := (le_iff_total hs.no_leap ht.no_leap).1 h
  have hself : t.total - seconds * unit ≤ (t.back seconds).total :=
    (back_le_iff (ht.back seconds) ht seconds).1 (le_refl _)
  rw [back_le_iff (ht.back seconds) hs]
  omega

end LossPrevention.Time.Instant
