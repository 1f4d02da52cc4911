import LossPrevention.Proofs.Engine.Evaluation

/-!
Policies do not get into each other's way. As long as none of them stops the evaluation, what is
seen of the policy with some id, its matches and its window, depends on the definitions with that
id, the events and the clock alone. Two runs that agree on these are kept in step by a relation
that looks at the one id only.
-/

namespace LossPrevention.Engine

open Json (Value)
open Time (Instant)

namespace Step

/-- The step with all definitions left out but those of one id. -/
def only (id : String) : Step → Step
  | load definitions => load (definitionsOf id definitions)
  | loadDirectory items => load (definitionsOf id (Policy.readDirectory items).1)
  | evaluate event => evaluate event
  | setClock now => setClock now

/-- No policy that the step loads stops the evaluation. -/
def Unstopped (x : Step) : Prop :=
  ∀ definitions, x.loads? = some definitions → ∀ d ∈ definitions, d.stopOnMatch = false

theorem loads?_only (id : String) (x : Step) :
    (x.only id).loads? = x.loads?.map (definitionsOf id) := by
  cases x <;> rfl

theorem only_only (id : String) (x : Step) : (x.only id).only id = x.only id := by
  cases x <;> simp [only, definitionsOf]

theorem Unstopped.only {x : Step} (h : x.Unstopped) (id : String) : (x.only id).Unstopped := by
  intro definitions hd
  rw [loads?_only] at hd
  obtain ⟨all, hall, rfl⟩ := Option.map_eq_some_iff.1 hd
  intro d hmem
  exact h all hall d (List.mem_filter.1 hmem).1

end Step

/-- The matches of one id, where there is a list of matches at all. -/
def Answer.matchesOf (id : String) : Answer → Option (List Policy.Match)
  | .found ms => some (ms.filter (fun m => m.policyId = id))
  | .report _ | .notLoaded | .clock _ => none

namespace Clocked

/-- The answer to every step, with the state behind it. -/
def trace (s : Clocked) : List Step → List (Answer × Clocked)
  | [] => []
  | x :: steps => s.step x :: (s.step x).2.trace steps

end Clocked

/-- What is seen of one policy after a step: its matches and its whole window. -/
def view (id : String) (seen : Answer × Clocked) : Option (List Policy.Match) × List Tracker.Entry :=
  (seen.1.matchesOf id, seen.2.engine.tracker.window id)

/-! ### Evaluations without stops -/

section NoStop

variable {now : Instant} {event : Value} {policies : List Policy}

theorem considered_of_no_stop {t : Tracker} (h : ∀ p ∈ policies, p.stopOnMatch = false) :
    considered t now event policies = policies := by
  induction policies with
  | nil => rfl
  | cons p rest ih =>
      rw [considered_of_continue rest (by simp [h p List.mem_cons_self]),
        ih (fun q hq => h q (List.mem_cons_of_mem _ hq))]

theorem named_firing {t : Tracker} (hnodup : (policies.map Policy.id).Nodup)
    (h : ∀ p ∈ policies, p.stopOnMatch = false) (id : String) :
    named id (firing now event t policies).1 =
      (named id policies).filter (fired t now event) := by
  rw [firing_fst hnodup, considered_of_no_stop h]
  simp only [named, List.filter_filter]
  exact List.filter_congr (fun p _ => Bool.and_comm _ _)

theorem window_firing {t : Tracker} (hnodup : (policies.map Policy.id).Nodup)
    (h : ∀ p ∈ policies, p.stopOnMatch = false) (id : String) :
    (firing now event t policies).2.window id =
      match (named id policies).head?.bind (notes? event) with
      | some rule => t.record now rule.window event (t.window id)
      | none => t.window id := by
  have hall : considered t now event policies = policies := considered_of_no_stop h
  cases hhead : (named id policies).head? with
  | some p =>
      have hmem := List.mem_filter.1 (List.mem_of_head? hhead)
      have hid : p.id = id := of_decide_eq_true hmem.2
      rw [← hid, Option.bind_some]
      exact window_firing_of_mem hnodup (hall.symm ▸ hmem.1)
  | none =>
      have hnone : named id policies = [] := List.head?_eq_none_iff.1 hhead
      rw [Tracker.window, get?_firing_of_untouched hnodup, Option.bind_none, Tracker.window]
      intro p hp hid
      rw [hall] at hp
      have hin : p ∈ named id policies := List.mem_filter.2 ⟨hp, decide_eq_true hid⟩
      rw [hnone] at hin
      cases hin

end NoStop

/-! ### Two runs in step -/

/-- Two engines with clocks that one id cannot tell apart. -/
structure Agree (id : String) (s u : Clocked) : Prop where
  now : s.now = u.now
  limit : s.engine.tracker.limit = u.engine.tracker.limit
  defaultWindow : s.engine.defaultWindow = u.engine.defaultWindow
  window : s.engine.tracker.window id = u.engine.tracker.window id
  policies : s.engine.active.map (fun set => named id set.policies) =
    u.engine.active.map (fun set => named id set.policies)

/-- An engine that a run without stopping policies leads to. -/
structure Regular (s : Clocked) : Prop where
  sourced : s.Sourced
  unstopped : ∀ set, s.engine.active = some set → ∀ p ∈ set.policies, p.stopOnMatch = false

theorem regular_fresh (config : Tracker.Config) (now : Instant) :
    Regular (Clocked.fresh config now) where
  sourced := Clocked.sourced_fresh config now
  unstopped := nofun

theorem Regular.step {s : Clocked} (h : Regular s) {x : Step} (hx : x.Unstopped) :
    Regular (s.step x).2 where
  sourced := Clocked.sourced_step h.sourced x
  unstopped := by
    intro set hset p hp
    cases hl : x.loads? with
    | some definitions =>
        rw [(Clocked.step_of_loads s hl).1, load_active] at hset
        cases hset
        obtain ⟨d, hd, hc⟩ := exists_of_mem_loadedPolicies hp
        rw [(Policy.compiled_of_compile hc).stopOnMatch]
        exact hx definitions hl d hd
    | none =>
        rw [Clocked.active_step_of_loads_none s hl] at hset
        exact h.unstopped set hset p hp

theorem matchesOf_step_of_loads (id : String) (s : Clocked) {x : Step}
    {definitions : List Policy.Definition} (h : x.loads? = some definitions) :
    (s.step x).1.matchesOf id = none := by
  cases x with
  | load definitions => rfl
  | loadDirectory items => rfl
  | evaluate event => cases h
  | setClock now => cases h

theorem agree_load {id : String} {s u : Clocked} (h : Agree id s u) {x y : Step}
    {xs ys : List Policy.Definition} (hx : x.loads? = some xs) (hy : y.loads? = some ys)
    (hd : definitionsOf id xs = definitionsOf id ys) :
    Agree id (s.step x).2 (u.step y).2 ∧
      (s.step x).1.matchesOf id = (u.step y).1.matchesOf id := by
  obtain ⟨hxa, hxt, hxd, hxn⟩ := Clocked.step_of_loads s hx
  obtain ⟨hya, hyt, hyd, hyn⟩ := Clocked.step_of_loads u hy
  have hnamed : named id (loadedPolicies s.engine.defaultWindow xs) =
      named id (loadedPolicies u.engine.defaultWindow ys) := by
    rw [named_loadedPolicies, hd, h.defaultWindow, ← named_loadedPolicies]
  rw [matchesOf_step_of_loads id s hx, matchesOf_step_of_loads id u hy]
  refine ⟨⟨?_, ?_, ?_, ?_, ?_⟩, rfl⟩
  · rw [hxn, hyn, h.now]
  · rw [hxt, hyt, load_tracker, load_tracker, Tracker.limit_retain, Tracker.limit_retain, h.limit]
  · rw [hxd, hyd, h.defaultWindow]
  · rw [hxt, hyt, load_tracker, load_tracker, Tracker.window_retain, Tracker.window_retain]
    simp only [mem_ids_iff, hnamed, h.window]
  · rw [hxa, hya, load_active, load_active, Option.map_some, Option.map_some, hnamed]

theorem agree_evaluate {id : String} {s u : Clocked} (h : Agree id s u) (hs : Regular s)
    (hu : Regular u) (event : Value) :
    Agree id (s.step (.evaluate event)).2 (u.step (.evaluate event)).2 ∧
      (s.step (.evaluate event)).1.matchesOf id = (u.step (.evaluate event)).1.matchesOf id := by
  have hp := h.policies
  cases hsa : s.engine.active with
  | none =>
      rw [hsa, Option.map_none] at hp
      have hua : u.engine.active = none := Option.map_eq_none_iff.1 hp.symm
      rw [s.step_evaluate_of_none hsa, u.step_evaluate_of_none hua]
      exact ⟨h, rfl⟩
  | some set =>
      rw [hsa, Option.map_some] at hp
      obtain ⟨other, hua, hnamed⟩ := Option.map_eq_some_iff.1 hp.symm
      have hsn := hs.sourced.nodup hsa
      have hun := hu.sourced.nodup hua
      have hss := hs.unstopped set hsa
      have hus := hu.unstopped other hua
      have hfired : ∀ p ∈ named id set.policies,
          fired s.engine.tracker s.now event p = fired u.engine.tracker u.now event p := by
        intro p hmem
        have hid : p.id = id := of_decide_eq_true (List.mem_filter.1 hmem).2
        rw [h.now]
        exact fired_congr h.limit (hid.symm ▸ h.window) u.now event
      rw [s.step_evaluate_of_active hsa, u.step_evaluate_of_active hua]
      constructor
      · refine ⟨h.now, ?_, h.defaultWindow, ?_, ?_⟩
        · simp only [limit_firing, h.limit]
        · simp only [window_firing hsn hss, window_firing hun hus, hnamed, h.window, h.now,
            Tracker.record, h.limit]
        · simp only [hsa, hua, Option.map_some, hnamed]
      · have hmatches (ps : List Policy) :
            (ps.map Policy.toMatch).filter (fun m => m.policyId = id) =
              (named id ps).map Policy.toMatch := by
          rw [List.filter_map]
          rfl
        simp only [Answer.matchesOf, hmatches, named_firing hsn hss, named_firing hun hus, hnamed]
        rw [List.filter_congr hfired]

theorem agree_step {id : String} {s u : Clocked} (h : Agree id s u) (hs : Regular s)
    (hu : Regular u) {x y : Step} (hxy : x.only id = y.only id) :
    Agree id (s.step x).2 (u.step y).2 ∧ view id (s.step x) = view id (u.step y) := by
  have hboth : Agree id (s.step x).2 (u.step y).2 ∧
      (s.step x).1.matchesOf id = (u.step y).1.matchesOf id := by
    cases x with
    | load xs =>
        cases y with
        | load ys => exact agree_load h rfl rfl (Step.load.inj hxy)
        | loadDirectory items => exact agree_load h rfl rfl (Step.load.inj hxy)
        | evaluate event => cases hxy
        | setClock now => cases hxy
    | loadDirectory items =>
        cases y with
        | load ys => exact agree_load h rfl rfl (Step.load.inj hxy)
        | loadDirectory items => exact agree_load h rfl rfl (Step.load.inj hxy)
        | evaluate event => cases hxy
        | setClock now => cases hxy
    | evaluate event =>
        cases y with
        | load ys => cases hxy
        | loadDirectory items => cases hxy
        | evaluate other => cases hxy; exact agree_evaluate h hs hu event
        | setClock now => cases hxy
    | setClock now =>
        cases y with
        | load ys => cases hxy
        | loadDirectory items => cases hxy
        | evaluate event => cases hxy
        | setClock other =>
            cases hxy
            exact ⟨⟨rfl, h.limit, h.defaultWindow, h.window, h.policies⟩, rfl⟩
  exact ⟨hboth.1, Prod.ext hboth.2 hboth.1.window⟩

theorem view_trace {id : String} {s u : Clocked} (h : Agree id s u) (hs : Regular s)
    (hu : Regular u) {xs ys : List Step} (hxs : ∀ x ∈ xs, x.Unstopped)
    (hys : ∀ y ∈ ys, y.Unstopped) (hxy : xs.map (Step.only id) = ys.map (Step.only id)) :
    (s.trace xs).map (view id) = (u.trace ys).map (view id) := by
  induction xs generalizing s u ys with
  | nil =>
      cases ys with
      | nil => rfl
      | cons y ys => cases hxy
  | cons x xs ih =>
      cases ys with
      | nil => cases hxy
      | cons y ys =>
          obtain ⟨hhead, htail⟩ := List.cons.inj hxy
          obtain ⟨hagree, hview⟩ := agree_step h hs hu hhead
          have hrest := ih hagree (hs.step (hxs x List.mem_cons_self))
            (hu.step (hys y List.mem_cons_self))
            (fun z hz => hxs z (List.mem_cons_of_mem _ hz))
            (fun z hz => hys z (List.mem_cons_of_mem _ hz)) htail
          simp only [Clocked.trace, List.map_cons, hview, hrest]

theorem agree_refl (id : String) (s : Clocked) : Agree id s s := ⟨rfl, rfl, rfl, rfl, rfl⟩

/-- Seen from one id a run is the run with the definitions of that id only, and therefore the
same as every other run that has the same definitions of that id. -/
theorem view_run_alone (config : Tracker.Config) (start : Instant) (id : String)
    (steps : List Step) (h : ∀ x ∈ steps, x.Unstopped) :
    let engine := Clocked.fresh config start
    (engine.trace steps).map (view id) =
        (engine.trace (steps.map (Step.only id))).map (view id) ∧
      ∀ others : List Step, (∀ x ∈ others, x.Unstopped) →
        others.map (Step.only id) = steps.map (Step.only id) →
          (engine.trace others).map (view id) = (engine.trace steps).map (view id) := by
  intro engine
  have hagree := agree_refl id engine
  have hregular : Regular engine := regular_fresh config start
  constructor
  · apply view_trace hagree hregular hregular h
    · intro y hy
      obtain ⟨x, hx, rfl⟩ := List.mem_map.1 hy
      exact (h x hx).only id
    · rw [List.map_map]
      exact List.map_congr_left (fun x _ => (Step.only_only id x).symm)
  · intro others hothers hsame
    exact view_trace hagree hregular hregular hothers h hsame

/-- A policy with a window beside one without. -/
theorem view_run_alone_beside :
    let engine := Clocked.fresh {} ⟨0, 0⟩
    let counted : Policy.Definition :=
      { id := "a", name := "A", conditions := .all [], stateful := some {} }
    let other : Policy.Definition := { id := "b", name := "B", conditions := .any [] }
    let steps : List Step :=
      [.load [other, counted], .evaluate .null, .setClock ⟨1, 0⟩, .evaluate .null]
    (∀ x ∈ steps, x.Unstopped) ∧
      (engine.trace steps).map (view "a") =
        (engine.trace (steps.map (Step.only "a"))).map (view "a") := by
  intro engine counted other steps
  have h : ∀ x ∈ steps, x.Unstopped := by
    intro x hx definitions hd d hmem
    have hboth : d = other ∨ d = counted := by
      simp only [steps, List.mem_cons, List.not_mem_nil, or_false] at hx
      rcases hx with rfl | rfl | rfl | rfl <;> cases hd
      simpa using hmem
    rcases hboth with hother | hcounted
    · rw [hother]
    · rw [hcounted]
  exact ⟨h, (view_run_alone {} ⟨0, 0⟩ "a" steps h).1⟩

end LossPrevention.Engine
