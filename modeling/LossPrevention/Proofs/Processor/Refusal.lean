import LossPrevention.Proofs.Processor.Run

/-!
Events that are refused: those of the wrong form, and all of them before the first load. Nothing
comes of them but that a classification may have been counted, so a run answers and ends as if they
had never been given.
-/

namespace LossPrevention

open Json (Value)

namespace Event

/-- An object with an object `event` that has a type and a severity. -/
def WellFormed (event : Value) : Prop :=
  ∃ root inner, event = .object root ∧ Keyed.get? "event" root = some (.object inner) ∧
    Keyed.contains "type" inner = true ∧ Keyed.contains "severity" inner = true

theorem validate_eq_ok_iff {event : Value} : validate event = .ok () ↔ WellFormed event := by
  constructor
  · intro h
    cases event with
    | object root =>
        rw [validate] at h
        split at h
        · rename_i inner hinner
          split at h
          · cases h
          split at h
          · cases h
          · rename_i htype hseverity
            exact ⟨root, inner, rfl, hinner, by simpa using htype, by simpa using hseverity⟩
        · cases h
    | _ => cases h
  · rintro ⟨root, inner, rfl, hinner, htype, hseverity⟩
    rw [validate]
    simp [hinner, htype, hseverity]

end Event

namespace Processor

open Time (Instant)

variable {σ : Type}

/-! ### The counting of classifications apart -/

def withoutClassifications (metrics : Metrics) : Metrics :=
  { metrics with classifiedEvents := 0, latency := 0 }

/-- The processor as if it had counted no classifications. -/
def uncounted (p : Processor σ) : Processor σ :=
  { p with engine := { p.engine with metrics := withoutClassifications p.engine.metrics } }

section Uncounted

variable (p : Processor σ) (occasion : Occasion) (event : Value) (set : Engine.PolicySet)

end Uncounted

namespace Clocked

def uncounted (s : Clocked σ) : Clocked σ := { s with processor := s.processor.uncounted }

end Clocked

/-! ### Refused events -/

section Refuses

variable {p : Processor σ} {occasion : Occasion} {event : Value}

end Refuses

/-! ### Runs without the refused events -/

namespace Step

end Step

namespace Moment

/-- What comes of a step, but for what has been counted of classifications. -/
def view (m : Moment σ) : Answer × Clocked σ := (m.answer, m.after.uncounted)

end Moment

namespace Clocked

end Clocked

end Processor

end LossPrevention
