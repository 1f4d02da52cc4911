import LossPrevention.Event.FieldPath

/-!
How paths lie to each other, and what the value that a path leads to depends on.
-/

namespace LossPrevention.FieldPath

open Json (Value)

/-- Neither path is the other one or lies on the way to it. -/
def Apart (p q : FieldPath) : Prop :=
  ¬ p.segments <+: q.segments ∧ ¬ q.segments <+: p.segments

instance (p q : FieldPath) : Decidable (Apart p q) := inferInstanceAs (Decidable (_ ∧ _))

/-- The path to a field at the top of an event. -/
def top (key : String) : FieldPath := ⟨key, []⟩

theorem apart_top_iff {p : FieldPath} {key : String} : p.Apart (top key) ↔ p.first ≠ key := by
  constructor
  · rintro ⟨-, h⟩ rfl
    exact h ⟨p.others, rfl⟩
  · intro h
    refine ⟨fun hp => ?_, fun hp => ?_⟩
    · exact h (List.cons_prefix_cons.1 hp).1
    · exact h (List.cons_prefix_cons.1 hp).1.symm

theorem resolve_of_get? {p : FieldPath} {v w : Value} (h : v.get? p.first = some w) :
    p.resolve v = resolveAt p.others w := by
  rw [resolve, segments, resolveAt, h]
  rfl

theorem resolveAt_append (front back : List String) (v : Value) :
    resolveAt (front ++ back) v = (resolveAt front v).bind (resolveAt back) := by
  induction front generalizing v with
  | nil => rfl
  | cons s front ih =>
      rw [List.cons_append, resolveAt, resolveAt, Option.bind_assoc]
      exact congrArg (Option.bind _) (funext ih)

theorem resolve_congr {path : FieldPath} {v w : Value} (h : v.get? path.first = w.get? path.first) :
    path.resolve v = path.resolve w := by
  rw [resolve, resolve, segments, resolveAt, resolveAt, h]

end LossPrevention.FieldPath
