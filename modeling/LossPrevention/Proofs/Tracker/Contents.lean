import LossPrevention.Proofs.Time.Arithmetic
import LossPrevention.Proofs.Tracker.Expiry

/-!
What a window holds under checks and reloads. A reload drops whole windows, and a window that was
dropped starts anew. Main statement: on a clock that never goes back a window holds the last of the
entries recorded since then that every check has found recent enough, however far back the checks
look, and a check passes by what it leaves in the window.
-/

namespace LossPrevention.Tracker

open Json (Value)
open Time (Instant)

/-! ### Runs with reloads -/

/-- A check, or a reload that keeps the windows of some policies. -/
inductive Step where
  | check (call : Call)
  | retain (keep : List String)

namespace Step

def reading? : Step → Option Instant
  | check c => some c.now
  | retain _ => none

/-- The checks of the present window of a policy after the step. -/
def extend (policy : String) (checks : List Check) : Step → List Check
  | check c => if c.policy = policy then checks ++ [c.toCheck] else checks
  | retain keep => if policy ∈ keep then checks else []

end Step

def step (t : Tracker) : Step → Tracker
  | .check c => (t.answer c).2
  | .retain keep => t.retain keep

def follow (t : Tracker) (steps : List Step) : Tracker := steps.foldl step t

def readings (steps : List Step) : List Instant := steps.filterMap Step.reading?

/-- The checks of a policy since its window was last dropped. -/
def recorded (policy : String) (steps : List Step) : List Check :=
  steps.foldl (Step.extend policy) []

section Follow

variable (steps : List Step) (s : Step) (policy : String)

theorem follow_append (t : Tracker) : t.follow (steps ++ [s]) = (t.follow steps).step s := by
  simp [follow]

theorem recorded_append :
    recorded policy (steps ++ [s]) = s.extend policy (recorded policy steps) := by
  simp [recorded]

theorem limit_step (t : Tracker) : (t.step s).limit = t.limit := by
  cases s <;> rfl

theorem limit_follow (t : Tracker) : (t.follow steps).limit = t.limit := by
  induction steps generalizing t with
  | nil => rfl
  | cons s rest ih => exact (ih (t.step s)).trans (limit_step s t)

theorem window_follow (config : Config) :
    ((ofConfig config).follow steps).window policy =
      windowAfter (max 1 config.maxEvents) (recorded policy steps) := by
  induction steps using List.reverseRecOn with
  | nil => rfl
  | append_singleton steps s ih =>
    have hlimit : ((ofConfig config).follow steps).limit = max 1 config.maxEvents :=
      limit_follow steps _
    rw [follow_append, recorded_append]
    cases s with
    | check c =>
      by_cases h : c.policy = policy
      · subst h
        rw [Step.extend, if_pos rfl, windowAfter_append, step, answer, window_check_self, record_eq,
          ih, hlimit]
      · rw [Step.extend, if_neg h, step, answer, window_check_of_ne (Ne.symm h), ih]
    | retain keep =>
      rw [Step.extend, step, window_retain]
      by_cases h : policy ∈ keep
      · rw [if_pos h, if_pos h, ih]
      · rw [if_neg h, if_neg h]
        rfl

theorem recorded_sublist :
    ((recorded policy steps).map Check.now).Sublist (readings steps) := by
  induction steps using List.reverseRecOn with
  | nil => exact List.Sublist.refl _
  | append_singleton steps s ih =>
    rw [recorded_append, readings, List.filterMap_append]
    cases s with
    | check c =>
      rw [Step.extend]
      split
      · rw [List.map_append]
        exact ih.append (List.Sublist.refl _)
      · exact ih.trans (List.sublist_append_left _ _)
    | retain keep =>
      rw [Step.extend]
      split
      · exact ih.trans (List.sublist_append_left _ _)
      · exact List.nil_sublist _

end Follow

/-! ### Thresholds -/

/-- The values that are there and not null, one for each entry that has one. -/
def presentValues (field : FieldPath) (entries : List Entry) : List Value :=
  (entries.filterMap (fun e => field.resolve e.event)).filter (fun v => !v.isNull)

/-- The entries are enough for the threshold: in number, or in different texts of a field. -/
def Reaches (threshold : Policy.Threshold) (entries : List Entry) : Prop :=
  match threshold.distinct with
  | none => threshold.count ≤ entries.length
  | some field =>
      threshold.count ≤ ((presentValues field entries).map Value.compact).toFinset.card

theorem length_distinctTexts_eq_card (field : FieldPath) (entries : List Entry) :
    (distinctTexts field entries).length =
      ((presentValues field entries).map Value.compact).toFinset.card :=
  length_eraseDups _

theorem count_le_iff_reaches {threshold : Policy.Threshold} {entries : List Entry} :
    threshold.count ≤ count threshold entries ↔ Reaches threshold entries := by
  rw [count, Reaches]
  cases threshold.distinct with
  | none => exact Iff.rfl
  | some field =>
    dsimp only
    rw [length_distinctTexts_eq_card]

theorem answer_iff_reaches (t : Tracker) (c : Call) :
    (t.answer c).1 = true ↔ Reaches c.rule.threshold ((t.answer c).2.window c.policy) := by
  rw [answer, window_check_self, ← count_le_iff_reaches]
  exact decide_eq_true_iff

/-! ### Contents -/

theorem exists_append_latest (limit : Nat) (entries : List Entry) :
    ∃ lost, entries = lost ++ latest limit entries :=
  ⟨entries.take (entries.length - limit), (List.take_append_drop _ _).symm⟩

/-- What every window holds after any checks and reloads on a clock that never goes back, and what
the next step makes of it. -/
theorem contents_after_steps (config : Config) (steps : List Step)
    (hcalendar : ∀ t ∈ readings steps, Instant.earliest ≤ t)
    (hclock : (readings steps).Pairwise (· ≤ ·)) :
    let t := (ofConfig config).follow steps
    (∀ policy, ∃ lost, survivors (recorded policy steps) = lost ++ t.window policy ∧
      (t.window policy).length =
        min (survivors (recorded policy steps)).length (max 1 config.maxEvents)) ∧
    (∀ policy, ∀ c ∈ recorded policy steps, ∀ d ∈ recorded policy steps,
      d.cutoff ≤ c.now ↔ d.now.shift (-d.length) 0 ≤ c.now) ∧
    (∀ c : Call, ((t.answer c).1 = true ↔
      Reaches c.rule.threshold ((t.step (.check c)).window c.policy)) ∧
      ∀ other ≠ c.policy, (t.step (.check c)).window other = t.window other) ∧
    ∀ keep, ∀ policy ∈ keep, (t.step (.retain keep)).window policy = t.window policy := by
  intro t
  refine ⟨?_, ?_, ?_, ?_⟩
  · intro policy
    have hpairs : (recorded policy steps).Pairwise (fun a b => a.now ≤ b.now) :=
      List.pairwise_map.1 (hclock.sublist (recorded_sublist steps policy))
    have hwindow : t.window policy =
        latest (max 1 config.maxEvents) (survivors (recorded policy steps)) := by
      rw [window_follow, windowAfter_eq hpairs]
    obtain ⟨lost, hlost⟩ := exists_append_latest (max 1 config.maxEvents)
      (survivors (recorded policy steps))
    refine ⟨lost, ?_, ?_⟩
    · rw [hwindow]
      exact hlost
    · rw [hwindow, length_latest, Nat.min_comm]
  · intro policy c hc d _
    have hmem : c.now ∈ readings steps :=
      (recorded_sublist steps policy).mem (List.mem_map_of_mem hc)
    exact Instant.back_le_iff_shift (hcalendar _ hmem) d.now d.length
  · intro c
    exact ⟨answer_iff_reaches t c, fun other h => window_check_of_ne h t c.now c.rule c.event⟩
  · intro keep policy h
    exact (window_retain keep t policy).trans (if_pos h)

/-- A check that looks back beyond the first instant there is loses nothing, and the shorter one
after it keeps the event that stands at its cutoff. -/
theorem contents_after_shorter_window :
    let call (second : Int) (length : Nat) : Step :=
      .check ⟨⟨second, 0⟩, "pol", ⟨length, ⟨2, none⟩⟩, .null⟩
    let steps := [.retain [], call 100 60, call 130 (2 ^ 64 - 1), call 150 20]
    (∀ t ∈ readings steps, Instant.earliest ≤ t) ∧ (readings steps).Pairwise (· ≤ ·) ∧
      ((ofConfig { maxEvents := 2 }).follow steps).window "pol" =
        [⟨⟨130, 0⟩, .null⟩, ⟨⟨150, 0⟩, .null⟩] := by
  intro call steps
  have hcalendar : ∀ t ∈ readings steps, Instant.earliest ≤ t := by decide
  have hclock : (readings steps).Pairwise (· ≤ ·) := by decide
  refine ⟨hcalendar, hclock, ?_⟩
  obtain ⟨lost, hlost, hlength⟩ :=
    (contents_after_steps { maxEvents := 2 } steps hcalendar hclock).1 "pol"
  have hsurvivors : survivors (recorded "pol" steps) =
      [⟨⟨130, 0⟩, .null⟩, ⟨⟨150, 0⟩, .null⟩] := by decide
  rw [hsurvivors] at hlost hlength
  have hnil : lost = [] := by
    have htotal := congrArg List.length hlost
    rw [List.length_append, hlength] at htotal
    exact List.eq_nil_of_length_eq_zero (by simpa using htotal)
  rw [hlost, hnil, List.nil_append]

end LossPrevention.Tracker
