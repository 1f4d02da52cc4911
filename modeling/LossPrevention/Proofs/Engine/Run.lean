import LossPrevention.Proofs.Engine.Loading

/-!
Runs of an engine on a clock. A run is a list of steps: loads of either kind, evaluations, and
movements of the clock in any direction. The policies in force are always those of the last load,
and there are none before the first one.
-/

namespace LossPrevention.Engine

open Json (Value)
open Time (Instant)

inductive Step where
  | load (definitions : List Policy.Definition)
  | loadDirectory (items : List (String × Policy.Item))
  | evaluate (event : Value)
  | setClock (now : Instant)

/-- What is seen of a step from outside. -/
inductive Answer where
  | report (report : Report)
  | found (found : List Policy.Match)
  | notLoaded
  | clock (now : Instant)

namespace Step

/-- The definitions that a step puts into force, if it is a load. -/
def loads? : Step → Option (List Policy.Definition)
  | load definitions => some definitions
  | loadDirectory items => some (Policy.readDirectory items).1
  | evaluate _ | setClock _ => none

end Step

/-- An engine with the clock that its windows run on. -/
structure Clocked where
  engine : Engine
  now : Instant

namespace Clocked

/-- An engine without policies. -/
def fresh (config : Tracker.Config) (now : Instant) : Clocked := ⟨ofConfig config, now⟩

def step (s : Clocked) : Step → Answer × Clocked
  | .load definitions =>
      let (report, engine) := s.engine.load definitions
      (.report report, { s with engine })
  | .loadDirectory items =>
      let (report, engine) := s.engine.loadDirectory items
      (.report report, { s with engine })
  | .evaluate event =>
      match s.engine.evaluate s.now event with
      | none => (.notLoaded, s)
      | some (found, engine) => (.found found, { s with engine })
  | .setClock now => (.clock now, { s with now })

def run (s : Clocked) (steps : List Step) : Clocked := steps.foldl (fun s x => (s.step x).2) s

@[simp] theorem run_nil (s : Clocked) : s.run [] = s := rfl

@[simp] theorem run_cons (s : Clocked) (x : Step) (steps : List Step) :
    s.run (x :: steps) = (s.step x).2.run steps := rfl

theorem run_append (s : Clocked) (first second : List Step) :
    s.run (first ++ second) = (s.run first).run second := List.foldl_append

/-! ### What a step does to an engine -/

section Parts

variable (s : Clocked)

theorem step_of_loads {x : Step} {definitions : List Policy.Definition}
    (h : x.loads? = some definitions) :
    (s.step x).2.engine.active = (s.engine.load definitions).2.active ∧
      (s.step x).2.engine.tracker = (s.engine.load definitions).2.tracker ∧
      (s.step x).2.engine.defaultWindow = s.engine.defaultWindow ∧ (s.step x).2.now = s.now := by
  cases x with
  | load ds => cases h; exact ⟨rfl, rfl, rfl, rfl⟩
  | loadDirectory items => cases h; exact ⟨rfl, rfl, rfl, rfl⟩
  | evaluate event => cases h
  | setClock now => cases h

theorem step_evaluate_of_active {set : PolicySet} (h : s.engine.active = some set)
    (event : Value) :
    s.step (.evaluate event) =
      (.found ((firing s.now event s.engine.tracker set.policies).1.map Policy.toMatch),
        { s with engine := { s.engine with
            tracker := (firing s.now event s.engine.tracker set.policies).2
            metrics := s.engine.metrics.evaluation
              ((firing s.now event s.engine.tracker set.policies).1.map
                Policy.toMatch).length } }) := by
  simp [step, Engine.evaluate, h]

theorem step_evaluate_of_none (h : s.engine.active = none) (event : Value) :
    s.step (.evaluate event) = (.notLoaded, s) := by
  simp [step, Engine.evaluate, h]

theorem active_step_of_loads_none {x : Step} (h : x.loads? = none) :
    (s.step x).2.engine.active = s.engine.active := by
  cases x with
  | load ds => cases h
  | loadDirectory items => cases h
  | evaluate event =>
      cases hs : s.engine.active with
      | none => rw [step_evaluate_of_none s hs, hs]
      | some set => rw [step_evaluate_of_active s hs]; exact hs
  | setClock now => rfl

theorem defaultWindow_step (x : Step) :
    (s.step x).2.engine.defaultWindow = s.engine.defaultWindow := by
  cases x with
  | load ds => rfl
  | loadDirectory items => rfl
  | evaluate event =>
      cases hs : s.engine.active with
      | none => rw [step_evaluate_of_none s hs]
      | some set => rw [step_evaluate_of_active s hs]
  | setClock now => rfl

end Parts

/-! ### The policies in force -/

/-- The policies in force come from one list of definitions. -/
def Sourced (s : Clocked) : Prop :=
  ∀ set, s.engine.active = some set →
    ∃ definitions, set.policies = loadedPolicies s.engine.defaultWindow definitions

theorem sourced_fresh (config : Tracker.Config) (now : Instant) : (fresh config now).Sourced := by
  intro set h
  cases h

theorem sourced_step {s : Clocked} (h : s.Sourced) (x : Step) : (s.step x).2.Sourced := by
  intro set hset
  rw [defaultWindow_step]
  cases hx : x.loads? with
  | some definitions =>
      rw [(step_of_loads s hx).1, load_active] at hset
      cases hset
      exact ⟨definitions, rfl⟩
  | none =>
      rw [active_step_of_loads_none s hx] at hset
      exact h set hset

theorem sourced_run {s : Clocked} (h : s.Sourced) (steps : List Step) : (s.run steps).Sourced := by
  induction steps generalizing s with
  | nil => exact h
  | cons x steps ih => exact ih (sourced_step h x)

theorem Sourced.nodup {s : Clocked} (h : s.Sourced) {set : PolicySet}
    (hs : s.engine.active = some set) : (set.policies.map Policy.id).Nodup := by
  obtain ⟨definitions, hd⟩ := h set hs
  rw [hd]
  exact nodup_loadedPolicies _ _

theorem Sourced.ranked {s : Clocked} (h : s.Sourced) {set : PolicySet}
    (hs : s.engine.active = some set) :
    set.policies.Pairwise (fun a b => b.priority ≤ a.priority) := by
  obtain ⟨definitions, hd⟩ := h set hs
  rw [hd]
  exact ranked_pairwise _

/-- There are policies in force, if only an empty list of them, just after some load. -/
theorem active_eq_none_iff {s : Clocked} (steps : List Step) :
    (s.run steps).engine.active = none ↔
      s.engine.active = none ∧ ∀ x ∈ steps, x.loads? = none := by
  induction steps generalizing s with
  | nil => simp
  | cons x steps ih =>
      rw [run_cons, ih]
      cases hx : x.loads? with
      | some definitions =>
          have hsome : (s.step x).2.engine.active ≠ none := by
            rw [(step_of_loads s hx).1, load_active]
            exact Option.some_ne_none _
          simp [hsome, hx]
      | none => simp [active_step_of_loads_none s hx, hx]

end Clocked

end LossPrevention.Engine
