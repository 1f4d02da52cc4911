import LossPrevention.Proofs.Processor.Run

/-!
Processing apart from what is different each time: the ids, times and hashes of the audit records,
how long a classification took, and in which order an entropy was added up. The answer to an event
depends on none of these as long as the entropy comes out the same, and neither does what else is
left of it.
-/

namespace LossPrevention

namespace Audit

/-- The decision of a record alone, without what identifies the record. -/
def Record.decision (r : Record) : Record :=
  { r with id := "", time := ⟨0, 0⟩, hash := none, previousHash := none }

namespace Trail

def decisions (t : Trail) : List Record := t.records.map Record.decision

def anonymous (t : Trail) : Trail := { t with records := t.decisions, head := none }

end Trail

end Audit

def Metrics.timeless (m : Metrics) : Metrics := { m with latency := 0 }

namespace Processor

open Json (Value)

variable {σ : Type}

/-- An occasion of which the clock is kept and the order of the sum. -/
def Occasion.anonymous (occasion : Occasion) : Occasion :=
  { now := occasion.now, order := occasion.order, recordId := "", recordTime := ⟨0, 0⟩ }

def anonymous (p : Processor σ) : Processor σ :=
  { p with
    engine := { p.engine with metrics := p.engine.metrics.timeless }
    trail := p.trail.anonymous }

section Anonymous

variable (p : Processor σ) (occasion : Occasion) (event : Value) (set : Engine.PolicySet)

end Anonymous

/-! ### Runs -/

def Step.anonymous : Step → Step
  | .process event order _ _ _ => .process event order "" ⟨0, 0⟩ 0
  | x => x

namespace Clocked

def anonymous (s : Clocked σ) : Clocked σ := { s with processor := s.processor.anonymous }

end Clocked

end Processor

end LossPrevention
