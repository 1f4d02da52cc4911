import LossPrevention.Proofs.Engine.Run
import Mathlib.Data.List.Nodup

/-!
What an evaluation comes to. The engine goes through its policies with windows that change on the
way; because no two policies share a window the outcome is that of asking each of them about the
windows as they were before.
-/

namespace LossPrevention.Engine

open Json (Value)
open Time (Instant)

/-- Whether an enabled policy has conditions that hold. -/
def concerns (event : Value) (p : Policy) : Bool := p.enabled && p.conditions.evaluate event

/-- Whether a policy fires on an event, with the given windows. -/
def fired (t : Tracker) (now : Instant) (event : Value) (p : Policy) : Bool :=
  concerns event p && p.stateful.all (fun rule => (t.check now p.id rule event).1)

/-- The policies up to the first one that fires and stops the evaluation; all if none does. -/
def considered (t : Tracker) (now : Instant) (event : Value) (policies : List Policy) :
    List Policy :=
  policies.take (policies.findIdx (fun p => fired t now event p && p.stopOnMatch) + 1)

/-- The rule by which a policy takes note of an event. -/
def notes? (event : Value) (p : Policy) : Option Policy.StatefulRule :=
  if concerns event p then p.stateful else none

theorem notes?_eq_some_iff {event : Value} {p : Policy} {rule : Policy.StatefulRule} :
    notes? event p = some rule ↔
      p.enabled = true ∧ p.conditions.evaluate event = true ∧ p.stateful = some rule := by
  simp [notes?, concerns, and_assoc]

/-! ### One policy -/

section One

variable (now : Instant) (event : Value) (t : Tracker) (p : Policy)

theorem fires_fst : (fires now event t p).1 = fired t now event p := by
  unfold fires fired concerns
  cases p.enabled && p.conditions.evaluate event <;> cases p.stateful <;> simp

theorem fires_snd :
    (fires now event t p).2 =
      match notes? event p with
      | some rule => (t.check now p.id rule event).2
      | none => t := by
  unfold fires notes? concerns
  cases p.enabled && p.conditions.evaluate event <;> cases p.stateful <;> simp

theorem limit_fires : (fires now event t p).2.limit = t.limit := by
  rw [fires_snd]
  cases notes? event p <;> rfl

theorem get?_fires_of_notes {rule : Policy.StatefulRule} (h : notes? event p = some rule) :
    Keyed.get? p.id (fires now event t p).2.windows =
      some (t.record now rule.window event (t.window p.id)) := by
  rw [fires_snd, h]
  exact Tracker.get?_check_self t now p.id rule event

theorem get?_fires_of_ne {id : String} (h : id ≠ p.id ∨ notes? event p = none) :
    Keyed.get? id (fires now event t p).2.windows = Keyed.get? id t.windows := by
  rw [fires_snd]
  cases hn : notes? event p with
  | none => rfl
  | some rule =>
      rcases h with h | h
      · exact Tracker.get?_check_of_ne h t now rule event
      · rw [hn] at h; cases h

end One

theorem fired_congr {t u : Tracker} {p : Policy} (hl : u.limit = t.limit)
    (hw : u.window p.id = t.window p.id) (now : Instant) (event : Value) :
    fired u now event p = fired t now event p := by
  simp only [fired, Tracker.check_fst_congr hl hw]

theorem considered_congr {t u : Tracker} {now : Instant} {event : Value} {policies : List Policy}
    (h : ∀ p ∈ policies, fired u now event p = fired t now event p) :
    considered u now event policies = considered t now event policies := by
  have hidx : policies.findIdx (fun p => fired u now event p && p.stopOnMatch) =
      policies.findIdx (fun p => fired t now event p && p.stopOnMatch) := by
    induction policies with
    | nil => rfl
    | cons p rest ih =>
        rw [List.findIdx_cons, List.findIdx_cons, h p List.mem_cons_self,
          ih (fun q hq => h q (List.mem_cons_of_mem _ hq))]
  rw [considered, hidx, considered]

section Considered

variable {t : Tracker} {now : Instant} {event : Value} {p : Policy} (rest : List Policy)

theorem considered_of_stop (h : fired t now event p = true) (hs : p.stopOnMatch = true) :
    considered t now event (p :: rest) = [p] := by
  simp [considered, List.findIdx_cons, h, hs]

theorem considered_of_continue (h : (fired t now event p && p.stopOnMatch) = false) :
    considered t now event (p :: rest) = p :: considered t now event rest := by
  simp only [considered, List.findIdx_cons, h, cond_false, List.take_succ_cons]

theorem head_mem_considered : p ∈ considered t now event (p :: rest) := by
  simp [considered]

end Considered

theorem mem_considered {t : Tracker} {now : Instant} {event : Value} {higher : List Policy}
    (h : ∀ q ∈ higher, q.stopOnMatch = false) (p : Policy) (lower : List Policy) :
    p ∈ considered t now event (higher ++ p :: lower) := by
  induction higher with
  | nil => exact head_mem_considered lower
  | cons q rest ih =>
      rw [List.cons_append, considered_of_continue _ (by simp [h q List.mem_cons_self])]
      exact List.mem_cons_of_mem _ (ih (fun r hr => h r (List.mem_cons_of_mem _ hr)))

theorem considered_sublist (t : Tracker) (now : Instant) (event : Value) (policies : List Policy) :
    (considered t now event policies).Sublist policies := List.take_sublist _ _

/-! ### All policies -/

section All

variable {now : Instant} {event : Value}

/-- What a policy leaves alone, for the policies after it. -/
theorem window_fires_of_mem {t : Tracker} {p q : Policy} {rest : List Policy}
    (h : ((p :: rest).map Policy.id).Nodup) (hq : q ∈ rest) :
    (fires now event t p).2.window q.id = t.window q.id := by
  have hne : q.id ≠ p.id := fun e =>
    (List.nodup_cons.1 h).1 (e ▸ List.mem_map_of_mem hq)
  rw [Tracker.window, get?_fires_of_ne now event t p (.inl hne), Tracker.window]

theorem fired_fires_of_mem (now : Instant) (event : Value) (t : Tracker) {p : Policy}
    {rest : List Policy} (h : ((p :: rest).map Policy.id).Nodup) :
    ∀ q ∈ rest, fired (fires now event t p).2 now event q = fired t now event q := by
  intro q hq
  exact fired_congr (limit_fires now event t p) (window_fires_of_mem h hq) now event

theorem firing_cons (t : Tracker) (p : Policy) (rest : List Policy) :
    firing now event t (p :: rest) =
      if fired t now event p then
        if p.stopOnMatch then ([p], (fires now event t p).2)
        else (p :: (firing now event (fires now event t p).2 rest).1,
          (firing now event (fires now event t p).2 rest).2)
      else firing now event (fires now event t p).2 rest := by
  rw [firing, ← fires_fst]
  split <;> rename_i heq <;> simp [heq]

theorem firing_fst {t : Tracker} {policies : List Policy}
    (h : (policies.map Policy.id).Nodup) :
    (firing now event t policies).1 =
      (considered t now event policies).filter (fired t now event) := by
  induction policies generalizing t with
  | nil => rfl
  | cons p rest ih =>
      have hrest := ih (t := (fires now event t p).2) (List.nodup_cons.1 h).2
      have hsame := fired_fires_of_mem now event t h
      rw [considered_congr hsame] at hrest
      rw [List.filter_congr (fun q hq => hsame q ((considered_sublist ..).mem hq))] at hrest
      rw [firing_cons]
      cases hf : fired t now event p with
      | false =>
          rw [considered_of_continue rest (by simp [hf]), List.filter_cons_of_neg (by simp [hf])]
          exact hrest
      | true =>
          cases hs : p.stopOnMatch with
          | true => rw [considered_of_stop rest hf hs]; simp [hf]
          | false =>
              rw [considered_of_continue rest (by simp [hs]), List.filter_cons_of_pos hf]
              simp [hrest]

theorem limit_firing (t : Tracker) (policies : List Policy) :
    (firing now event t policies).2.limit = t.limit := by
  induction policies generalizing t with
  | nil => rfl
  | cons p rest ih =>
      have hp := limit_fires now event t p
      rw [firing_cons]
      split
      · split
        · exact hp
        · exact (ih _).trans hp
      · exact (ih _).trans hp

/-- A window changes only for a considered policy that takes note of the event. -/
theorem get?_firing_of_untouched {t : Tracker} {policies : List Policy} {id : String}
    (hnodup : (policies.map Policy.id).Nodup)
    (h : ∀ p ∈ considered t now event policies, p.id = id → notes? event p = none) :
    Keyed.get? id (firing now event t policies).2.windows = Keyed.get? id t.windows := by
  induction policies generalizing t with
  | nil => rfl
  | cons p rest ih =>
      have hsame := fired_fires_of_mem now event t hnodup
      have hmem : p ∈ considered t now event (p :: rest) := head_mem_considered rest
      have hp : Keyed.get? id (fires now event t p).2.windows = Keyed.get? id t.windows := by
        by_cases hid : id = p.id
        · exact get?_fires_of_ne now event t p (.inr (h p hmem hid.symm))
        · exact get?_fires_of_ne now event t p (.inl hid)
      have hrest (hc : (fired t now event p && p.stopOnMatch) = false) :
          Keyed.get? id (firing now event (fires now event t p).2 rest).2.windows =
            Keyed.get? id t.windows := by
        rw [ih (List.nodup_cons.1 hnodup).2 (fun q hq => h q ?_), hp]
        rw [considered_of_continue rest hc]
        rw [considered_congr hsame] at hq
        exact List.mem_cons_of_mem _ hq
      rw [firing_cons]
      cases hf : fired t now event p with
      | false => exact hrest (by simp [hf])
      | true =>
          cases hs : p.stopOnMatch with
          | true => simpa using hp
          | false => simpa using hrest (by simp [hs])

/-- A considered policy that takes note of the event gets it into its window, once. -/
theorem get?_firing_of_notes {t : Tracker} {policies : List Policy} {p : Policy}
    {rule : Policy.StatefulRule} (hnodup : (policies.map Policy.id).Nodup)
    (hp : p ∈ considered t now event policies) (hn : notes? event p = some rule) :
    Keyed.get? p.id (firing now event t policies).2.windows =
      some (t.record now rule.window event (t.window p.id)) := by
  induction policies generalizing t with
  | nil => cases hp
  | cons q rest ih =>
      have hsame := fired_fires_of_mem now event t hnodup
      obtain ⟨hq, hrest⟩ := List.nodup_cons.1 hnodup
      have hlater (r : Policy) (hr : r ∈ rest) : r.id ≠ q.id := fun e =>
        hq (e ▸ List.mem_map_of_mem hr)
      have hself (hpq : p = q) :
          Keyed.get? p.id (firing now event (fires now event t q).2 rest).2.windows =
            some (t.record now rule.window event (t.window p.id)) := by
        subst hpq
        rw [get?_firing_of_untouched hrest, get?_fires_of_notes now event t p hn]
        intro r hr hid
        exact absurd hid (hlater r ((considered_sublist ..).mem hr))
      have hother (hpr : p ∈ considered t now event rest) :
          Keyed.get? p.id (firing now event (fires now event t q).2 rest).2.windows =
            some (t.record now rule.window event (t.window p.id)) := by
        rw [ih hrest (considered_congr hsame ▸ hpr),
          window_fires_of_mem hnodup ((considered_sublist ..).mem hpr)]
        simp [Tracker.record, limit_fires]
      rw [firing_cons]
      cases hc : fired t now event q && q.stopOnMatch with
      | true =>
          rw [Bool.and_eq_true] at hc
          rw [considered_of_stop rest hc.1 hc.2, List.mem_singleton] at hp
          subst hp
          simpa [hc.1, hc.2] using get?_fires_of_notes now event t p hn
      | false =>
          rw [considered_of_continue rest hc, List.mem_cons] at hp
          have hboth := hp.elim hself hother
          cases hf : fired t now event q with
          | false => simpa using hboth
          | true =>
              have hs : q.stopOnMatch = false := by simpa [hf] using hc
              simpa [hs] using hboth

theorem window_firing_of_mem {t : Tracker} {policies : List Policy} {p : Policy}
    (hnodup : (policies.map Policy.id).Nodup) (hp : p ∈ considered t now event policies) :
    (firing now event t policies).2.window p.id =
      match notes? event p with
      | some rule => t.record now rule.window event (t.window p.id)
      | none => t.window p.id := by
  cases hn : notes? event p with
  | some rule => rw [Tracker.window, get?_firing_of_notes hnodup hp hn, Option.getD_some]
  | none =>
      rw [Tracker.window, get?_firing_of_untouched hnodup, Tracker.window]
      intro q hq hid
      have hqp : q = p := List.inj_on_of_nodup_map hnodup
        ((considered_sublist ..).mem hq) ((considered_sublist ..).mem hp) hid
      rw [hqp, hn]

end All

/-! ### An evaluation of a reachable engine -/

/-- What an evaluation of `event` at `now` makes of an engine with the policies `set` in force:
what it answers, which windows it changes, and that it changes nothing else but its counters. -/
structure Evaluates (e : Engine) (set : PolicySet) (now : Instant) (event : Value)
    (found : List Policy.Match) (after : Engine) : Prop where
  found_eq : found = ((considered e.tracker now event set.policies).filter
    (fired e.tracker now event)).map Policy.toMatch
  once : (found.map Policy.Match.policyId).Nodup
  ranked : found.Pairwise (fun a b => b.priority ≤ a.priority)
  /-- Whether the threshold is reached makes no difference. -/
  recorded : ∀ p ∈ considered e.tracker now event set.policies, ∀ rule,
    p.enabled = true → p.conditions.evaluate event = true → p.stateful = some rule →
      Keyed.get? p.id after.tracker.windows = some (Tracker.latest e.tracker.limit
        (Tracker.expire (now.back rule.window) (e.tracker.window p.id ++ [⟨now, event⟩])))
  untouched : ∀ id, (∀ p ∈ considered e.tracker now event set.policies, p.id = id →
      ¬ (p.enabled = true ∧ p.conditions.evaluate event = true ∧ p.stateful.isSome = true)) →
    Keyed.get? id after.tracker.windows = Keyed.get? id e.tracker.windows
  active : after.active = some set
  limit : after.tracker.limit = e.tracker.limit
  defaultWindow : after.defaultWindow = e.defaultWindow

theorem evaluates_of_nodup {s : Clocked} {set : PolicySet} (hs : s.engine.active = some set)
    (hnodup : (set.policies.map Policy.id).Nodup)
    (hranked : set.policies.Pairwise (fun a b => b.priority ≤ a.priority)) (event : Value) :
    ∃ found after, s.step (.evaluate event) = (.found found, { s with engine := after }) ∧
      Evaluates s.engine set s.now event found after := by
  have hsub : ((considered s.engine.tracker s.now event set.policies).filter
      (fired s.engine.tracker s.now event)).Sublist set.policies :=
    List.filter_sublist.trans (considered_sublist ..)
  refine ⟨_, _, s.step_evaluate_of_active hs event, ?_⟩
  exact {
    found_eq := by rw [firing_fst hnodup]
    once := by
      rw [firing_fst hnodup, List.map_map]
      exact hnodup.sublist (hsub.map Policy.id)
    ranked := by
      rw [firing_fst hnodup]
      exact List.pairwise_map.2 (hranked.sublist hsub)
    recorded := by
      intro p hp rule he hc hr
      exact get?_firing_of_notes hnodup hp (notes?_eq_some_iff.2 ⟨he, hc, hr⟩)
    untouched := by
      intro id h
      apply get?_firing_of_untouched hnodup
      intro p hp hid
      cases hn : notes? event p with
      | none => rfl
      | some rule =>
          obtain ⟨he, hc, hr⟩ := notes?_eq_some_iff.1 hn
          exact absurd ⟨he, hc, by rw [hr]; rfl⟩ (h p hp hid)
    active := hs
    limit := limit_firing ..
    defaultWindow := rfl }

/-- Before the first load an evaluation is refused and changes nothing; after it, the answer is
what the policies in force say one by one. -/
theorem evaluate_after_run (config : Tracker.Config) (start : Instant) (steps : List Step)
    (event : Value) :
    let s := (Clocked.fresh config start).run steps
    (s.engine.active = none ↔ ∀ x ∈ steps, x.loads? = none) ∧
      match s.engine.active with
      | none => s.step (.evaluate event) = (.notLoaded, s)
      | some set =>
          ∃ found after, s.step (.evaluate event) = (.found found, { s with engine := after }) ∧
            Evaluates s.engine set s.now event found after := by
  intro s
  constructor
  · rw [Clocked.active_eq_none_iff]
    exact and_iff_right rfl
  · have hsourced : s.Sourced := Clocked.sourced_run (Clocked.sourced_fresh config start) steps
    cases hs : s.engine.active with
    | none => exact s.step_evaluate_of_none hs event
    | some set => exact evaluates_of_nodup hs (hsourced.nodup hs) (hsourced.ranked hs) event

end LossPrevention.Engine
