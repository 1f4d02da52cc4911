import LossPrevention.Time.Date

/-!
Instants of universal time. A leap second has no second of its own: it is the second before it
with `10 ^ 9` nanoseconds or more. Leaving a leap second takes up or gives back that second, so
`shift` does not always keep the order of two instants.
-/

namespace LossPrevention.Time

structure Instant where
  /-- Seconds since the beginning of 1970, leap seconds not counted. -/
  seconds : Int
  /-- Below `2 * 10 ^ 9`. -/
  nanos : Nat
  deriving DecidableEq

namespace Instant

def unit : Nat := 1000000000

instance : LT Instant where
  lt a b := a.seconds < b.seconds ∨ (a.seconds = b.seconds ∧ a.nanos < b.nanos)

instance : LE Instant where
  le a b := ¬ b < a

instance (a b : Instant) : Decidable (a < b) :=
  inferInstanceAs (Decidable (_ ∨ _))

instance (a b : Instant) : Decidable (a ≤ b) :=
  inferInstanceAs (Decidable (¬ _))

theorem lt_iff {a b : Instant} :
    a < b ↔ a.seconds < b.seconds ∨ (a.seconds = b.seconds ∧ a.nanos < b.nanos) := Iff.rfl

theorem not_lt {a b : Instant} : ¬ a < b ↔ b ≤ a := Iff.rfl

theorem le_refl (a : Instant) : a ≤ a := by
  rw [← not_lt, lt_iff]; omega

theorem le_trans {a b c : Instant} (hab : a ≤ b) (hbc : b ≤ c) : a ≤ c := by
  rw [← not_lt, lt_iff] at *; omega

def earliest : Instant := ⟨Date.toDays ⟨-262143, 1, 1⟩ * 86400, 0⟩

/-- The last full second there is. -/
def latest : Instant := ⟨Date.toDays ⟨262142, 12, 31⟩ * 86400 + 86399, 999999999⟩

def ofParts (seconds nanos : Int) : Instant :=
  let total := seconds * unit + nanos
  ⟨total / unit, (total % unit).toNat⟩

/-- The instant later by seconds and nanoseconds of one sign. -/
def shift (t : Instant) (seconds nanos : Int) : Instant :=
  if t.nanos < unit then ofParts (t.seconds + seconds) (t.nanos + nanos)
  else if 0 < seconds ∨ 2 * unit ≤ t.nanos + nanos then
    ofParts (t.seconds + seconds) (t.nanos - unit + nanos)
  else if seconds < 0 then ofParts (t.seconds + 1 + seconds) (t.nanos - unit + nanos)
  else ⟨t.seconds, (t.nanos + nanos).toNat⟩

/-- The instant `seconds` earlier; the first one there is if that would be before it. -/
def back (t : Instant) (seconds : Nat) : Instant :=
  let s := t.shift (-seconds) 0
  if s < earliest then earliest else s

end Instant

end LossPrevention.Time
