import LossPrevention.Enforcement.Basic

/-!
Outcomes in which the texts and the decisions go together: there is a reason just where something
is blocked, and a place and a reason just where something is quarantined. Merging keeps this, so it
holds of whatever the actions on an event come to.
-/

namespace LossPrevention.Enforcement

open Json (Value)
open Policy (Match)

namespace Outcome

structure Coherent (o : Outcome) : Prop where
  block : o.blockReason.isSome = o.blocked
  path : o.quarantinePath.isSome = o.quarantined
  reason : o.quarantineReason.isSome = o.quarantined

theorem coherent_empty : Coherent {} := ⟨rfl, rfl, rfl⟩

/-- The text of the first of two decisions, where each has one just if it is made. -/
theorem isSome_first {s t : Option String} {a b : Bool} (hs : s.isSome = a) (ht : t.isSome = b) :
    (if b then s <|> t else s).isSome = (a || b) := by
  subst hs ht
  cases s <;> cases t <;> rfl

theorem first_eq_or {s t : Option String} {b : Bool} (h : t.isSome = b) :
    (if b then s <|> t else s) = s.or t := by
  subst h
  cases s <;> cases t <;> rfl

theorem coherent_merge {a b : Outcome} (ha : Coherent a) (hb : Coherent b) :
    Coherent (a.merge b) where
  block := isSome_first ha.block hb.block
  path := isSome_first ha.path hb.path
  reason := isSome_first ha.reason hb.reason

theorem coherent_mergeAll {outcomes : List Outcome} (h : ∀ o ∈ outcomes, Coherent o) :
    Coherent (mergeAll outcomes) := by
  have hfold : ∀ start, Coherent start → Coherent (outcomes.foldl merge start) := by
    induction outcomes with
    | nil => exact fun start hstart => hstart
    | cons o rest ih =>
        obtain ⟨ho, hrest⟩ := List.forall_mem_cons.1 h
        exact fun start hstart => ih hrest _ (coherent_merge hstart ho)
  exact hfold {} coherent_empty

end Outcome

theorem Call.coherent_outcome (c : Call) (answer : Option Failure) :
    (c.outcome answer).Coherent := by
  obtain ⟨policy, event, order⟩ := c
  cases order <;> exact ⟨rfl, rfl, rfl⟩

/-- What the calls come to with these answers. -/
def outcomes (requests : List Call) (replies : List (Option Failure)) : List Outcome :=
  (requests.zip replies).map fun (c, answer) => c.outcome answer

theorem coherent_outcomes (requests : List Call) (replies : List (Option Failure)) :
    ∀ o ∈ outcomes requests replies, o.Coherent := by
  intro o ho
  obtain ⟨⟨c, answer⟩, -, rfl⟩ := List.mem_map.1 ho
  exact c.coherent_outcome answer

section Enforce

variable {σ : Type} (executor : Executor σ) (memory : σ) (matched : List Match) (event : Value)

theorem enforce_eq : enforce executor memory matched event =
    (.mergeAll (outcomes (calls matched event) (answers executor memory (calls matched event)).1),
      (answers executor memory (calls matched event)).2) := rfl

theorem coherent_enforce : (enforce executor memory matched event).1.Coherent :=
  Outcome.coherent_mergeAll (coherent_outcomes _ _)

end Enforce

end LossPrevention.Enforcement
