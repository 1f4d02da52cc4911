import LossPrevention.Proofs.Tracker.Expiry

/-!
The limit on the length of windows, against a tracker that only time makes forget. Main statement:
on any clock a limited window is the end of the unlimited one, so a limited tracker never passes a
check that the other one fails; and on a clock that never goes back both agree about every number
of events that fits into the limit.
-/

namespace LossPrevention.Tracker

open Time (Instant)

/-! ### Without a limit -/

/-- Windows that lose their entries by age alone. -/
structure Unbounded where
  windows : List (String × List Entry)

namespace Unbounded

def empty : Unbounded := ⟨[]⟩

def window (u : Unbounded) (policy : String) : List Entry :=
  (Keyed.get? policy u.windows).getD []

def record (u : Unbounded) (c : Call) : List Entry :=
  expire c.toCheck.cutoff (u.window c.policy ++ [c.toCheck.entry])

def answer (u : Unbounded) (c : Call) : Bool × Unbounded :=
  (c.rule.threshold.count ≤ count c.rule.threshold (u.record c),
    ⟨Keyed.insert c.policy (u.record c) u.windows⟩)

def run (u : Unbounded) (calls : List Call) : Unbounded :=
  calls.foldl (fun u c => (u.answer c).2) u

theorem window_answer_self (u : Unbounded) (c : Call) :
    (u.answer c).2.window c.policy = u.record c := by
  simp [window, answer]

theorem window_answer_of_ne {c : Call} {other : String} (h : other ≠ c.policy) (u : Unbounded) :
    (u.answer c).2.window other = u.window other := by
  simp [window, answer, Keyed.get?_insert_of_ne h]

theorem run_append (u : Unbounded) (calls : List Call) (c : Call) :
    u.run (calls ++ [c]) = ((u.run calls).answer c).2 := by
  simp [run]

end Unbounded

/-- The window that checks of one policy leave behind where only age counts. -/
def unexpired (checks : List Check) : List Entry :=
  checks.foldl (fun entries c => expire c.cutoff (entries ++ [c.entry])) []

theorem unexpired_append (checks : List Check) (c : Check) :
    unexpired (checks ++ [c]) = expire c.cutoff (unexpired checks ++ [c.entry]) := by
  simp [unexpired]

theorem Unbounded.window_run (policy : String) (calls : List Call) :
    (empty.run calls).window policy = unexpired (checksOf policy calls) := by
  induction calls using List.reverseRecOn with
  | nil => rfl
  | append_singleton calls c ih =>
    rw [run_append]
    by_cases h : c.policy = policy
    · subst h
      rw [window_answer_self, checksOf_append_self, unexpired_append, record, ih]
    · rw [window_answer_of_ne (Ne.symm h), checksOf_append_of_ne h, ih]

/-! ### The limited window within the other -/

theorem expire_suffix {kept entries : List Entry} (h : kept <:+ entries) (cutoff : Instant) :
    expire cutoff kept <:+ expire cutoff entries := by
  obtain ⟨front, rfl⟩ := h
  induction front with
  | nil => exact List.suffix_refl _
  | cons e front ih =>
    rw [List.cons_append]
    by_cases he : e.time < cutoff
    · have hdrop : expire cutoff (e :: (front ++ kept)) = expire cutoff (front ++ kept) := by
        simp [expire, he]
      rw [hdrop]
      exact ih
    · -- The front of the longer window holds everything behind it, the limited window included.
      have hkeep : expire cutoff (e :: (front ++ kept)) = e :: (front ++ kept) := by
        simp [expire, he]
      rw [hkeep]
      exact (List.dropWhile_suffix _).trans (List.suffix_append (e :: front) kept)

theorem latest_suffix (limit : Nat) (entries : List Entry) : latest limit entries <:+ entries :=
  List.drop_suffix _ _

theorem windowAfter_suffix (limit : Nat) (checks : List Check) :
    windowAfter limit checks <:+ unexpired checks := by
  induction checks using List.reverseRecOn with
  | nil => exact List.suffix_refl _
  | append_singleton checks c ih =>
    rw [windowAfter_append, unexpired_append]
    have happend : windowAfter limit checks ++ [c.entry] <:+ unexpired checks ++ [c.entry] := by
      obtain ⟨front, hfront⟩ := ih
      exact ⟨front, by rw [← hfront, List.append_assoc]⟩
    exact (latest_suffix limit _).trans (expire_suffix happend c.cutoff)

theorem length_unexpired_le (checks : List Check) : (unexpired checks).length ≤ checks.length := by
  induction checks using List.reverseRecOn with
  | nil => exact Nat.le_refl _
  | append_singleton checks c ih =>
    rw [unexpired_append]
    refine Nat.le_trans (expire_sublist _ _).length_le ?_
    rw [List.length_append, List.length_append]
    exact Nat.add_le_add_right ih 1

/-- A limit that the checks cannot exceed makes no difference. -/
theorem windowAfter_eq_unexpired {limit : Nat} {checks : List Check} (h : checks.length ≤ limit) :
    windowAfter limit checks = unexpired checks := by
  induction checks using List.reverseRecOn with
  | nil => rfl
  | append_singleton checks c ih =>
    have hbefore : checks.length ≤ limit := by
      rw [List.length_append] at h
      exact Nat.le_of_add_right_le h
    have hlength := length_unexpired_le (checks ++ [c])
    rw [unexpired_append] at hlength
    rw [windowAfter_append, unexpired_append, ih hbefore, latest_eq_self (Nat.le_trans hlength h)]

theorem unexpired_eq_survivors {checks : List Check}
    (h : checks.Pairwise (fun a b => a.now ≤ b.now)) : unexpired checks = survivors checks := by
  have hlimited := windowAfter_eq_unexpired (Nat.le_refl checks.length)
  rw [← hlimited, windowAfter_eq h, latest_eq_self]
  exact Nat.le_trans (survivors_sublist checks).length_le (Nat.le_of_eq (List.length_map _))

/-- On a clock that never goes back the limit only cuts off the front. -/
theorem windowAfter_eq_latest {checks : List Check}
    (h : checks.Pairwise (fun a b => a.now ≤ b.now)) (limit : Nat) :
    windowAfter limit checks = latest limit (unexpired checks) := by
  rw [windowAfter_eq h, unexpired_eq_survivors h]

/-! ### Answers -/

theorem count_of_plain {threshold : Policy.Threshold} (h : threshold.distinct = none)
    (entries : List Entry) : count threshold entries = entries.length := by
  rw [count, h]

theorem count_mono {entries more : List Entry} (h : ∀ e ∈ entries, e ∈ more)
    (hlength : entries.length ≤ more.length) (threshold : Policy.Threshold) :
    count threshold entries ≤ count threshold more := by
  rw [count, count]
  cases threshold.distinct with
  | none => exact hlength
  | some field =>
    refine length_eraseDups_mono ?_
    simp only [List.mem_map, List.mem_filter, List.mem_filterMap]
    rintro text ⟨v, ⟨⟨e, he, hv⟩, hnull⟩, rfl⟩
    exact ⟨v, ⟨⟨e, h e he, hv⟩, hnull⟩, rfl⟩

theorem answer_run (config : Config) (calls : List Call) (c : Call) :
    (((ofConfig config).run calls).answer c).1 =
      decide (c.rule.threshold.count ≤ count c.rule.threshold
        (windowAfter (max 1 config.maxEvents) (checksOf c.policy calls ++ [c.toCheck]))) := by
  have hlimit : ((ofConfig config).run calls).limit = max 1 config.maxEvents := limit_run _ calls
  rw [windowAfter_append, ← window_run, ← hlimit]
  rfl

theorem Unbounded.answer_run (calls : List Call) (c : Call) :
    ((empty.run calls).answer c).1 =
      decide (c.rule.threshold.count ≤ count c.rule.threshold
        (unexpired (checksOf c.policy calls ++ [c.toCheck]))) := by
  rw [unexpired_append, ← window_run]
  rfl

theorem pairwise_checksOf {calls : List Call} (h : calls.Pairwise (fun a b => a.now ≤ b.now))
    (policy : String) : (checksOf policy calls).Pairwise (fun a b => a.now ≤ b.now) :=
  List.pairwise_map.2 (h.sublist List.filter_sublist)

/-- The same checks with a limit and without one, on whatever clock. -/
theorem limited_within_unbounded (config : Config) (calls : List Call) (c : Call) :
    let limit := max 1 config.maxEvents
    let limited := (ofConfig config).run calls
    let free := Unbounded.empty.run calls
    (∀ policy, limited.window policy <:+ free.window policy) ∧
    ((limited.answer c).1 = true → (free.answer c).1 = true) ∧
    ((calls ++ [c]).Pairwise (fun a b => a.now ≤ b.now) → c.rule.threshold.distinct = none →
      c.rule.threshold.count ≤ limit → (limited.answer c).1 = (free.answer c).1) ∧
    (calls.length < limit → (∀ policy, limited.window policy = free.window policy) ∧
      (limited.answer c).1 = (free.answer c).1) := by
  intro limit limited free
  have hself := checksOf_append_self calls c
  simp only [limited, free, answer_run, Unbounded.answer_run, window_run, Unbounded.window_run]
  refine ⟨fun policy => windowAfter_suffix limit _, ?_, ?_, ?_⟩
  · intro hpass
    have hsuffix := windowAfter_suffix limit (checksOf c.policy calls ++ [c.toCheck])
    exact decide_eq_true (Nat.le_trans (of_decide_eq_true hpass)
      (count_mono (fun e he => hsuffix.mem he) hsuffix.length_le c.rule.threshold))
  · intro hclock hplain hcount
    have hpairs := pairwise_checksOf hclock c.policy
    rw [hself] at hpairs
    rw [windowAfter_eq_latest hpairs, count_of_plain hplain, count_of_plain hplain, length_latest]
    exact decide_eq_decide.2 (by omega)
  · intro hshort
    have hlength (policy : String) : (checksOf policy calls).length ≤ calls.length := by
      rw [checksOf, List.length_map]
      exact List.length_filter_le ..
    constructor
    · intro policy
      exact windowAfter_eq_unexpired (Nat.le_trans (hlength policy) (Nat.le_of_lt hshort))
    · have hfits : (checksOf c.policy calls ++ [c.toCheck]).length ≤ limit := by
        have hle := hlength c.policy
        rw [List.length_append, List.length_singleton]
        omega
      rw [windowAfter_eq_unexpired hfits]

/-- A window that is full and has lost an event counts as many as are asked for all the same. -/
theorem limited_within_unbounded_full :
    let limited := (ofConfig { maxEvents := 2 }).run (minuteCalls [0, 10, 20])
    let free := Unbounded.empty.run (minuteCalls [0, 10, 20])
    let c : Call := ⟨⟨30, 0⟩, "pol", ⟨60, ⟨2, none⟩⟩, .null⟩
    (minuteCalls [0, 10, 20] ++ [c]).Pairwise (fun a b => a.now ≤ b.now) ∧
      limited.window "pol" ≠ free.window "pol" ∧ (limited.answer c).1 = (free.answer c).1 := by
  intro limited free c
  have hclock : (minuteCalls [0, 10, 20] ++ [c]).Pairwise (fun a b => a.now ≤ b.now) := by decide
  obtain ⟨-, -, hplain, -⟩ :=
    limited_within_unbounded { maxEvents := 2 } (minuteCalls [0, 10, 20]) c
  exact ⟨hclock, by decide, hplain hclock rfl (by decide)⟩

end LossPrevention.Tracker
