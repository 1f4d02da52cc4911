import LossPrevention.Proofs.Engine.Evaluation
import LossPrevention.Proofs.Time.Arithmetic
import LossPrevention.Proofs.Tracker.Distinct
import Mathlib.Data.List.Perm.Basic

/-!
When a policy with a threshold fires. Its window goes through the engine's loop and through every
evaluation in between, and still the verdict is a count over the history of the run: of the events
at which the conditions held, those are counted that no check since has found too old. On a clock
without leap seconds these are the events of the last window.
-/

namespace LossPrevention.Engine

open Json (Value)
open Time (Instant)
open Tracker (Check Entry survivors windowAfter distinctValues)

/-! ### The history of a policy -/

def Step.reading? : Step → Option Instant
  | setClock now => some now
  | load _ | loadDirectory _ | evaluate _ => none

/-- What the clock shows in a run, oldest first. -/
def readings (start : Instant) (steps : List Step) : List Instant :=
  start :: steps.filterMap Step.reading?

/-- The evaluations of a run at which the conditions of a policy hold, as checks of a window. -/
def history (p : Policy) (length : Nat) : Instant → List Step → List Check
  | _, [] => []
  | now, .evaluate event :: rest =>
      if p.conditions.evaluate event then ⟨now, length, event⟩ :: history p length now rest
      else history p length now rest
  | _, .setClock now :: rest => history p length now rest
  | now, .load _ :: rest | now, .loadDirectory _ :: rest => history p length now rest

/-- The events that count at the end of a run: those at which the conditions held, unless such
an evaluation since has found them too old. -/
def counted (p : Policy) (length : Nat) (start : Instant) (steps : List Step) : List Entry :=
  survivors (history p length start steps)

section History

variable (p : Policy) (length : Nat)

theorem readings_append_evaluate (start : Instant) (steps : List Step) (event : Value) :
    readings start (steps ++ [.evaluate event]) = readings start steps := by
  simp [readings, Step.reading?]

theorem now_step_of_evaluate (s : Clocked) (event : Value) :
    (s.step (.evaluate event)).2.now = s.now := by
  cases hs : s.engine.active with
  | none => rw [s.step_evaluate_of_none hs]
  | some set => rw [s.step_evaluate_of_active hs]

theorem history_append (s : Clocked) (first second : List Step) :
    history p length s.now (first ++ second) =
      history p length s.now first ++ history p length (s.run first).now second := by
  induction first generalizing s with
  | nil => rfl
  | cons x steps ih =>
      have hrest := ih (s.step x).2
      cases x with
      | setClock now => exact hrest
      | load definitions => exact hrest
      | loadDirectory items => exact hrest
      | evaluate event =>
          rw [now_step_of_evaluate] at hrest
          rw [List.cons_append, history, history, Clocked.run_cons, hrest]
          split
          · rw [List.cons_append]
          · rfl

theorem mem_readings_of_mem_history {start : Instant} {steps : List Step} {c : Check}
    (h : c ∈ history p length start steps) : c.now ∈ readings start steps ∧ c.length = length := by
  induction steps generalizing start with
  | nil => cases h
  | cons x steps ih =>
      cases x with
      | setClock now =>
          obtain ⟨hmem, hl⟩ := ih h
          exact ⟨List.mem_cons_of_mem _ hmem, hl⟩
      | load definitions => exact ih h
      | loadDirectory items => exact ih h
      | evaluate event =>
          rw [history] at h
          split at h
          · rcases List.mem_cons.1 h with rfl | h
            · exact ⟨List.mem_cons_self, rfl⟩
            · exact ih h
          · exact ih h

theorem history_pairwise {start : Instant} {steps : List Step}
    (h : (readings start steps).Pairwise (· ≤ ·)) :
    (history p length start steps).Pairwise (fun a b => a.now ≤ b.now) := by
  induction steps generalizing start with
  | nil => exact List.Pairwise.nil
  | cons x steps ih =>
      cases x with
      | setClock now => exact ih (List.pairwise_cons.1 h).2
      | load definitions => exact ih h
      | loadDirectory items => exact ih h
      | evaluate event =>
          have hrest := ih h
          rw [history]
          split
          · refine List.pairwise_cons.2 ⟨?_, hrest⟩
            intro c hc
            have hmem := (mem_readings_of_mem_history p length hc).1
            rcases List.mem_cons.1 hmem with heq | hlater
            · rw [heq]; exact Instant.le_refl _
            · exact (List.pairwise_cons.1 h).1 _ hlater
          · exact hrest

end History

/-! ### The window of a policy along a run -/

section Watched

variable {higher lower : List Policy} {p : Policy} {rule : Policy.StatefulRule}

/-- A policy with a threshold that every evaluation gets to. -/
structure Watched (set : PolicySet) (higher : List Policy) (p : Policy) (lower : List Policy)
    (rule : Policy.StatefulRule) : Prop where
  policies : set.policies = higher ++ p :: lower
  unstopped : ∀ q ∈ higher, q.stopOnMatch = false
  enabled : p.enabled = true
  stateful : p.stateful = some rule

theorem Watched.concerns {set : PolicySet} (h : Watched set higher p lower rule) (event : Value) :
    concerns event p = p.conditions.evaluate event := by
  rw [Engine.concerns, h.enabled, Bool.true_and]

theorem Watched.notes? {set : PolicySet} (h : Watched set higher p lower rule) (event : Value) :
    notes? event p = if p.conditions.evaluate event then some rule else none := by
  rw [Engine.notes?, h.concerns, h.stateful]

theorem Watched.mem_considered {set : PolicySet} (h : Watched set higher p lower rule)
    (t : Tracker) (now : Instant) (event : Value) : p ∈ considered t now event set.policies := by
  rw [h.policies]
  exact Engine.mem_considered h.unstopped p lower

/-- An engine whose window of a policy comes from the given checks. -/
structure Kept (s : Clocked) (set : PolicySet) (p : Policy) (limit : Nat) (checks : List Check) :
    Prop where
  active : s.engine.active = some set
  bound : s.engine.tracker.limit = limit
  window : s.engine.tracker.window p.id = windowAfter limit checks

variable {set : PolicySet} {limit : Nat} {checks : List Check} {s : Clocked}

theorem kept_step (h : Kept s set p limit checks) (hnodup : (set.policies.map Policy.id).Nodup)
    (hw : Watched set higher p lower rule) {x : Step} (hx : x.loads? = none) :
    Kept (s.step x).2 set p limit (checks ++ history p rule.window s.now [x]) := by
  cases x with
  | load definitions => cases hx
  | loadDirectory items => cases hx
  | setClock now =>
      rw [history, history, List.append_nil]
      exact ⟨h.active, h.bound, h.window⟩
  | evaluate event =>
      rw [s.step_evaluate_of_active h.active]
      refine ⟨h.active, (limit_firing ..).trans h.bound, ?_⟩
      rw [window_firing_of_mem hnodup (hw.mem_considered ..), hw.notes?, history, history]
      split_ifs with hc
      · rw [Tracker.windowAfter_append, ← h.window, ← h.bound]
        rfl
      · rw [List.append_nil]
        exact h.window

theorem kept_run (h : Kept s set p limit checks) (hnodup : (set.policies.map Policy.id).Nodup)
    (hw : Watched set higher p lower rule) {steps : List Step}
    (hsteps : ∀ x ∈ steps, x.loads? = none) :
    Kept (s.run steps) set p limit (checks ++ history p rule.window s.now steps) := by
  induction steps generalizing s checks with
  | nil =>
      rw [history, List.append_nil]
      exact h
  | cons x steps ih =>
      have hstep := kept_step h hnodup hw (hsteps x List.mem_cons_self)
      have hrest := ih hstep (fun y hy => hsteps y (List.mem_cons_of_mem _ hy))
      rw [List.append_assoc] at hrest
      rw [← List.singleton_append, history_append p rule.window s [x] steps]
      exact hrest

theorem fired_of_kept (h : Kept s set p limit checks) (hw : Watched set higher p lower rule)
    (event : Value) :
    fired s.engine.tracker s.now event p = true ↔
      p.conditions.evaluate event = true ∧ rule.threshold.count ≤
        Tracker.count rule.threshold (windowAfter limit (checks ++ [⟨s.now, rule.window, event⟩])) := by
  rw [fired, hw.concerns, hw.stateful, Option.all_some, Bool.and_eq_true, Tracker.check,
    decide_eq_true_iff, Tracker.windowAfter_append, ← h.window, Tracker.record, h.bound]
  rfl

theorem eq_toMatch_of_mem_firing (hnodup : (set.policies.map Policy.id).Nodup)
    (hw : Watched set higher p lower rule) {t : Tracker} {now : Instant} {event : Value}
    {m : Policy.Match} (hm : m ∈ (firing now event t set.policies).1.map Policy.toMatch)
    (hid : m.policyId = p.id) : m = p.toMatch ∧ fired t now event p = true := by
  rw [firing_fst hnodup] at hm
  obtain ⟨q, hq, rfl⟩ := List.mem_map.1 hm
  obtain ⟨hmem, hfired⟩ := List.mem_filter.1 hq
  have hqp : q = p := List.inj_on_of_nodup_map hnodup ((considered_sublist ..).mem hmem)
    ((considered_sublist ..).mem (hw.mem_considered t now event)) hid
  exact ⟨congrArg Policy.toMatch hqp, hqp ▸ hfired⟩

theorem toMatch_mem_firing (hnodup : (set.policies.map Policy.id).Nodup)
    (hw : Watched set higher p lower rule) (t : Tracker) (now : Instant) (event : Value) :
    p.toMatch ∈ (firing now event t set.policies).1.map Policy.toMatch ↔
      fired t now event p = true := by
  constructor
  · intro h
    exact (eq_toMatch_of_mem_firing hnodup hw h rfl).2
  · intro hfired
    rw [firing_fst hnodup]
    exact List.mem_map_of_mem (List.mem_filter.2 ⟨hw.mem_considered t now event, hfired⟩)

end Watched

/-! ### The verdict -/

/-- On a clock that never goes back and shows no leap second, what counts is the last window. -/
theorem counted_eq_filter (p : Policy) (length : Nat) (s : Clocked) (steps : List Step)
    {event : Value} (he : p.conditions.evaluate event = true)
    (hclock : (readings s.now steps).Pairwise (· ≤ ·))
    (hregular : ∀ t ∈ readings s.now steps, t.Regular) :
    counted p length s.now (steps ++ [.evaluate event]) =
      ((history p length s.now (steps ++ [.evaluate event])).map Check.entry).filter
        (fun e => (s.run steps).now.total - length * Instant.unit ≤ e.time.total) := by
  have hreadings := readings_append_evaluate s.now steps event
  have hpairwise := history_pairwise p length (hreadings.symm ▸ hclock)
  have hmem : ∀ c ∈ history p length s.now (steps ++ [.evaluate event]),
      c.now.Regular ∧ c.length = length := by
    intro c hc
    obtain ⟨hnow, hl⟩ := mem_readings_of_mem_history p length hc
    exact ⟨hregular _ (hreadings ▸ hnow), hl⟩
  have hlast : history p length s.now (steps ++ [.evaluate event]) =
      history p length s.now steps ++ [⟨(s.run steps).now, length, event⟩] := by
    rw [history_append, history, if_pos he, history]
  rw [hlast] at hpairwise hmem
  have hnow : (s.run steps).now.Regular :=
    (hmem _ (List.mem_append_right _ (List.mem_singleton_self _))).1
  rw [counted, hlast, Tracker.survivors_eq_filter]
  · apply List.filter_congr
    intro e hmapped
    obtain ⟨c, hc, rfl⟩ := List.mem_map.1 hmapped
    exact decide_eq_decide.2 (Instant.back_le_iff (hmem c hc).1 hnow length)
  · intro d hd
    obtain ⟨hregular, hl⟩ := hmem d (List.mem_append_left _ hd)
    have hle : d.now ≤ (s.run steps).now :=
      (List.pairwise_append.1 hpairwise).2.2 d hd _ (List.mem_singleton_self _)
    rw [Check.cutoff, hl]
    exact Instant.back_mono hregular hnow hle length

theorem kept_load {config : Tracker.Config} {start : Instant}
    {definitions : List Policy.Definition} {set : PolicySet}
    (h : ((Clocked.fresh config start).step (.load definitions)).2.engine.active = some set)
    (p : Policy) :
    Kept ((Clocked.fresh config start).step (.load definitions)).2 set p (max 1 config.maxEvents)
      [] := by
  refine ⟨h, rfl, ?_⟩
  rw [(Clocked.step_of_loads _ rfl).2.1, load_tracker, Tracker.window_retain]
  split_ifs <;> rfl

theorem toMatch_mem_after_run {s : Clocked} {set : PolicySet} {higher lower : List Policy}
    {p : Policy} {rule : Policy.StatefulRule} {limit : Nat} (h : Kept s set p limit [])
    (hnodup : (set.policies.map Policy.id).Nodup) (hw : Watched set higher p lower rule)
    {steps : List Step} (hsteps : ∀ x ∈ steps, x.loads? = none)
    (hclock : (readings s.now steps).Pairwise (· ≤ ·)) (event : Value) :
    let final := s.run steps
    p.toMatch ∈ (firing final.now event final.engine.tracker set.policies).1.map
        Policy.toMatch ↔
      p.conditions.evaluate event = true ∧ rule.threshold.count ≤
        Tracker.count rule.threshold (Tracker.latest limit
          (counted p rule.window s.now (steps ++ [.evaluate event]))) := by
  intro final
  have hrun := kept_run h hnodup hw hsteps
  rw [toMatch_mem_firing hnodup hw, fired_of_kept hrun hw]
  apply and_congr_right
  intro he
  have hpairwise : (history p rule.window s.now (steps ++ [.evaluate event])).Pairwise
      (fun a b => a.now ≤ b.now) := by
    apply history_pairwise
    rw [readings_append_evaluate]
    exact hclock
  have hlast : history p rule.window s.now (steps ++ [.evaluate event]) =
      history p rule.window s.now steps ++ [⟨final.now, rule.window, event⟩] := by
    rw [history_append, history, if_pos he, history]
  rw [counted, ← Tracker.windowAfter_eq hpairwise limit, hlast, List.nil_append]

/-- A policy with a threshold for one second, whatever the events are. -/
def often (threshold : Policy.ThresholdSpec) : Policy.Definition where
  id := "often"
  name := "Often"
  conditions := .all []
  stateful := some ⟨.seconds 1, threshold⟩

def oftenPolicy (threshold : Policy.Threshold) : Policy where
  id := "often"
  name := "Often"
  enabled := true
  priority := 100
  severity := none
  conditions := .all []
  stateful := some ⟨1, threshold⟩
  actions := []
  complianceTags := []
  stopOnMatch := false

theorem active_often (config : Tracker.Config) (start : Instant) (spec : Policy.ThresholdSpec)
    (threshold : Policy.Threshold)
    (h : Policy.StatefulRule.compile (Window.parse config.defaultWindow) ⟨.seconds 1, spec⟩ =
      .ok ⟨1, threshold⟩) :
    ((Clocked.fresh config start).step (.load [often spec])).2.engine.active.map
      PolicySet.policies = some ([] ++ oftenPolicy threshold :: []) := by
  have hcompile : Policy.compile (Window.parse config.defaultWindow) (often spec) =
      .ok (oftenPolicy threshold) := by
    have hid : ¬ Policy.isBlank (often spec).id = true := by
      change ¬ Policy.isBlank "often" = true
      decide
    have hname : ¬ Policy.isBlank (often spec).name = true := by
      change ¬ Policy.isBlank "Often" = true
      decide
    rw [Policy.compile, if_neg hid, if_neg hname]
    exact congrArg (Except.map fun rule => { oftenPolicy threshold with stateful := some rule }) h
  rw [(Clocked.step_of_loads _ rfl).1, load_active, Option.map_some]
  exact congrArg some (loadedPolicies_singleton hcompile)

/-- The verdict on a policy that no earlier one can keep from being asked, at an evaluation at the
end of a run after one load. As long as the limit leaves room for the threshold it is that of the
events that count. -/
theorem found_iff_counted (config : Tracker.Config) (start : Instant)
    (definitions : List Policy.Definition) {higher lower : List Policy} {p : Policy}
    {rule : Policy.StatefulRule}
    (hactive : ((Clocked.fresh config start).step (.load definitions)).2.engine.active.map
      PolicySet.policies = some (higher ++ p :: lower))
    (hhigher : ∀ q ∈ higher, q.stopOnMatch = false) (henabled : p.enabled = true)
    (hstateful : p.stateful = some rule) (steps : List Step)
    (hsteps : ∀ x ∈ steps, x.loads? = none)
    (hclock : (readings start steps).Pairwise (· ≤ ·)) (event : Value) :
    let s := (Clocked.fresh config start).run (.load definitions :: steps)
    let limit := max 1 config.maxEvents
    let recent := counted p rule.window start (steps ++ [.evaluate event])
    ∃ found, (s.step (.evaluate event)).1 = .found found ∧
      (∀ m ∈ found, m.policyId = p.id → m = p.toMatch) ∧
      (rule.threshold.distinct = none → rule.threshold.count ≤ limit →
        (p.toMatch ∈ found ↔
          p.conditions.evaluate event = true ∧ rule.threshold.count ≤ recent.length)) ∧
      (∀ field, rule.threshold.distinct = some field → recent.length ≤ limit →
        (∀ e ∈ recent, e.event.Proper) →
        (p.toMatch ∈ found ↔ p.conditions.evaluate event = true ∧
          rule.threshold.count ≤ (distinctValues field recent).length)) ∧
      (p.conditions.evaluate event = true → (∀ t ∈ readings start steps, t.Regular) →
        recent = ((history p rule.window start (steps ++ [.evaluate event])).map
          Check.entry).filter
            (fun e => s.now.total - rule.window * Instant.unit ≤ e.time.total)) := by
  intro s limit recent
  obtain ⟨set, hset, hpolicies⟩ := Option.map_eq_some_iff.1 hactive
  have hw : Watched set higher p lower rule := ⟨hpolicies, hhigher, henabled, hstateful⟩
  have hnodup : (set.policies.map Policy.id).Nodup :=
    (Clocked.sourced_step (Clocked.sourced_fresh config start) _).nodup hset
  have hkept := kept_load hset p
  have hfound : p.toMatch ∈ (firing s.now event s.engine.tracker set.policies).1.map
      Policy.toMatch ↔ p.conditions.evaluate event = true ∧
        rule.threshold.count ≤ Tracker.count rule.threshold (Tracker.latest limit recent) :=
    toMatch_mem_after_run hkept hnodup hw hsteps hclock event
  have hanswer := s.step_evaluate_of_active (kept_run hkept hnodup hw hsteps).active event
  refine ⟨_, congrArg Prod.fst hanswer, ?_, ?_, ?_, ?_⟩
  · intro m hm hid
    exact (eq_toMatch_of_mem_firing hnodup hw hm hid).1
  · intro hdistinct hcount
    have hlength : Tracker.count rule.threshold (Tracker.latest limit recent) =
        min limit recent.length := by
      rw [Tracker.count, hdistinct, ← Tracker.length_latest]
    rw [hfound, hlength, Nat.le_min, and_iff_right hcount]
  · intro field hdistinct hlength hproper
    have hthreshold : rule.threshold = ⟨rule.threshold.count, some field⟩ := by rw [← hdistinct]
    have hcount : Tracker.count rule.threshold (Tracker.latest limit recent) =
        (distinctValues field recent).length := by
      rw [Tracker.latest_eq_self hlength, hthreshold]
      exact Tracker.count_eq_length_distinctValues hproper _
    rw [hfound, hcount]
  · intro he hregular
    exact counted_eq_filter p rule.window ((Clocked.fresh config start).step (.load definitions)).2
      steps he hclock hregular

/-- Two events at the two ends of a window, counted as events and by their users: two users reach a
threshold of two, and one user twice does not. -/
theorem found_iff_counted_ends :
    let event (user : String) : Value := .object [("user", .text user)]
    let steps (spec : Policy.ThresholdSpec) : List Step :=
      [.load [often spec], .evaluate (event "ann"), .setClock ⟨1, 0⟩]
    let s := (Clocked.fresh {} ⟨0, 0⟩).run (steps ⟨2, none⟩)
    let t := (Clocked.fresh {} ⟨0, 0⟩).run (steps ⟨2, some "user"⟩)
    let byUser := (oftenPolicy ⟨2, some ⟨"user", []⟩⟩).toMatch
    (∃ found, (s.step (.evaluate (event "ann"))).1 = .found found ∧
      (oftenPolicy ⟨2, none⟩).toMatch ∈ found) ∧
      (∃ found, (t.step (.evaluate (event "bob"))).1 = .found found ∧ byUser ∈ found) ∧
      ∃ found, (t.step (.evaluate (event "ann"))).1 = .found found ∧ byUser ∉ found := by
  intro event steps s t byUser
  have hplainActive := active_often {} ⟨0, 0⟩ ⟨2, none⟩ ⟨2, none⟩ rfl
  have hactive := active_often {} ⟨0, 0⟩ ⟨2, some "user"⟩ ⟨2, some ⟨"user", []⟩⟩ rfl
  have hproper (user : String) : (event user).Proper := by
    have hfields : ∀ e ∈ [("user", Value.text user)], Document.Canonical 1 e.2 :=
      List.forall_mem_singleton.2 ⟨trivial, trivial, Nat.zero_le 1⟩
    exact Value.proper_of_canonical (Document.canonical_ofFields hfields)
  let later : List Step := [.evaluate (event "ann"), .setClock ⟨1, 0⟩]
  let recent (user : String) : List Entry :=
    counted (oftenPolicy ⟨2, some ⟨"user", []⟩⟩) 1 ⟨0, 0⟩ (later ++ [.evaluate (event user)])
  have hboth (user : String)
      (h : recent user = [⟨⟨0, 0⟩, event "ann"⟩, ⟨⟨1, 0⟩, event user⟩]) :
      ∀ e ∈ recent user, e.event.Proper := by
    rw [h]
    exact List.forall_mem_cons.2 ⟨hproper _, List.forall_mem_singleton.2 (hproper user)⟩
  refine ⟨?_, ?_, ?_⟩
  · obtain ⟨found, hanswer, -, hplain, -, -⟩ := found_iff_counted {} ⟨0, 0⟩ [often ⟨2, none⟩]
      hplainActive nofun rfl rfl later (by decide) (by decide) (event "ann")
    exact ⟨found, hanswer, (hplain rfl (by decide)).2 ⟨rfl, by decide⟩⟩
  · obtain ⟨found, hanswer, -, -, hdistinct, -⟩ := found_iff_counted {} ⟨0, 0⟩
      [often ⟨2, some "user"⟩] hactive nofun rfl rfl later (by decide) (by decide) (event "bob")
    have hproper := hboth "bob" (by decide)
    exact ⟨found, hanswer, (hdistinct _ rfl (by decide) hproper).2 ⟨rfl, by decide⟩⟩
  · obtain ⟨found, hanswer, -, -, hdistinct, -⟩ := found_iff_counted {} ⟨0, 0⟩
      [often ⟨2, some "user"⟩] hactive nofun rfl rfl later (by decide) (by decide) (event "ann")
    have hproper := hboth "ann" (by decide)
    refine ⟨found, hanswer, fun hmem => ?_⟩
    exact absurd ((hdistinct _ rfl (by decide) hproper).1 hmem).2 (by decide)

/-- In a leap second the cutoff is ahead of what it is at the second after, and what has been
dropped by then does not come back: here all three events lie in the last window. -/
theorem not_found_after_leap_second :
    let before : Instant := ⟨1483228799, 200000000⟩
    let leap : Instant := ⟨1483228799, 1500000000⟩
    let after : Instant := ⟨1483228800, 0⟩
    let s := (Clocked.fresh {} before).run [.load [often ⟨3, none⟩], .evaluate .null,
      .setClock leap, .evaluate .null, .setClock after]
    (before ≤ leap ∧ leap ≤ after) ∧
      (∀ t ∈ [before, leap, after], after.back 1 ≤ t) ∧
      (oftenPolicy ⟨3, none⟩).conditions.evaluate .null = true ∧
      ∃ found, (s.step (.evaluate .null)).1 = .found found ∧
        (oftenPolicy ⟨3, none⟩).toMatch ∉ found := by
  intro before leap after s
  refine ⟨by decide, by decide, rfl, ?_⟩
  obtain ⟨set, hset, hpolicies⟩ :=
    Option.map_eq_some_iff.1 (active_often {} before ⟨3, none⟩ ⟨3, none⟩ rfl)
  have hw : Watched set [] (oftenPolicy ⟨3, none⟩) [] ⟨1, ⟨3, none⟩⟩ := ⟨hpolicies, nofun, rfl, rfl⟩
  have hnodup : (set.policies.map Policy.id).Nodup := by
    rw [hpolicies]
    exact List.nodup_singleton _
  let steps : List Step := [.evaluate .null, .setClock leap, .evaluate .null, .setClock after]
  have hsteps : ∀ x ∈ steps, x.loads? = none := by decide
  have hkept := kept_load hset (oftenPolicy ⟨3, none⟩)
  have hfound := toMatch_mem_after_run hkept hnodup hw hsteps (by decide) .null
  have hanswer := s.step_evaluate_of_active (kept_run hkept hnodup hw hsteps).active .null
  refine ⟨_, congrArg Prod.fst hanswer, ?_⟩
  intro hmem
  exact absurd (hfound.1 hmem).2 (by decide)

end LossPrevention.Engine
