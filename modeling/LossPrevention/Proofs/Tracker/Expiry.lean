import LossPrevention.Proofs.Tracker.Windows

/-!
Expiry on a clock that may be set back. A check drops old entries from the front only, so an old
entry stays as long as one that is not old stands before it. Main statement: these are the only
old entries that stay, and there are none if no old reading comes after one that is not old, in
particular if the clock never goes back.
-/

namespace LossPrevention.Tracker

open Json (Value)
open Time (Instant)

/-! ### Runs of checks -/

/-- A check of some policy at some reading of the clock. -/
structure Call where
  now : Instant
  policy : String
  rule : Policy.StatefulRule
  event : Value

namespace Call

def toCheck (c : Call) : Check := ⟨c.now, c.rule.window, c.event⟩

end Call

def answer (t : Tracker) (c : Call) : Bool × Tracker := t.check c.now c.policy c.rule c.event

def run (t : Tracker) (calls : List Call) : Tracker := calls.foldl (fun t c => (t.answer c).2) t

/-- The checks of one policy. -/
def checksOf (policy : String) (calls : List Call) : List Check :=
  (calls.filter (fun c => c.policy = policy)).map Call.toCheck

theorem checksOf_append_self (calls : List Call) (c : Call) :
    checksOf c.policy (calls ++ [c]) = checksOf c.policy calls ++ [c.toCheck] := by
  simp [checksOf]

theorem checksOf_append_of_ne {c : Call} {policy : String} (h : c.policy ≠ policy)
    (calls : List Call) : checksOf policy (calls ++ [c]) = checksOf policy calls := by
  simp [checksOf, h]

theorem run_append (t : Tracker) (calls : List Call) (c : Call) :
    t.run (calls ++ [c]) = ((t.run calls).answer c).2 := by
  simp [run]

theorem limit_run (t : Tracker) (calls : List Call) : (t.run calls).limit = t.limit := by
  induction calls generalizing t with
  | nil => rfl
  | cons c rest ih => exact ih _

theorem record_eq (t : Tracker) (c : Call) :
    t.record c.now c.rule.window c.event (t.window c.policy) =
      latest t.limit (expire c.toCheck.cutoff (t.window c.policy ++ [c.toCheck.entry])) := rfl

theorem window_run (config : Config) (policy : String) (calls : List Call) :
    ((ofConfig config).run calls).window policy =
      windowAfter (max 1 config.maxEvents) (checksOf policy calls) := by
  induction calls using List.reverseRecOn with
  | nil => rfl
  | append_singleton calls c ih =>
    rw [run_append]
    by_cases h : c.policy = policy
    · subst h
      have hlimit : ((ofConfig config).run calls).limit = max 1 config.maxEvents :=
        limit_run _ calls
      rw [answer, window_check_self, record_eq, ih, hlimit, checksOf_append_self,
        windowAfter_append]
    · rw [answer, window_check_of_ne (Ne.symm h), ih, checksOf_append_of_ne h]

/-! ### What a check drops -/

theorem expire_sublist (cutoff : Instant) (entries : List Entry) :
    (expire cutoff entries).Sublist entries := List.dropWhile_sublist _

theorem latest_sublist (limit : Nat) (entries : List Entry) :
    (latest limit entries).Sublist entries := List.drop_sublist _ _

/-- Where the first entry stands that is not too old. -/
def firstFresh (cutoff : Instant) (entries : List Entry) : Nat :=
  entries.findIdx (fun e => cutoff ≤ e.time)

theorem expire_eq_drop (cutoff : Instant) (entries : List Entry) :
    expire cutoff entries = entries.drop (firstFresh cutoff entries) := by
  rw [expire, List.dropWhile_eq_drop_findIdx_not, firstFresh]
  congr 2
  funext e
  simp [← Instant.not_lt]

/-- Both kinds of surplus are at the front. -/
theorem latest_expire_eq_drop (limit : Nat) (cutoff : Instant) (entries : List Entry) :
    latest limit (expire cutoff entries) =
      entries.drop (max (firstFresh cutoff entries) (entries.length - limit)) := by
  rw [expire_eq_drop, latest, List.drop_drop, List.length_drop]
  congr 1
  omega

theorem mem_latest_append {limit : Nat} {after : List Entry} (h : after.length < limit)
    (e : Entry) (before : List Entry) : e ∈ latest limit (before ++ e :: after) := by
  have hle : (before ++ e :: after).length - limit ≤ before.length := by
    rw [List.length_append, List.length_cons]
    omega
  rw [latest, List.drop_append_of_le_length hle]
  exact List.mem_append_right _ List.mem_cons_self

theorem exists_of_mem_latest {limit : Nat} {e : Entry} {entries : List Entry}
    (h : e ∈ latest limit entries) :
    ∃ before after, entries = before ++ e :: after ∧ after.length < limit := by
  obtain ⟨skipped, after, heq⟩ := List.append_of_mem h
  refine ⟨entries.take (entries.length - limit) ++ skipped, after, ?_, ?_⟩
  · rw [List.append_assoc, ← heq, latest, List.take_append_drop]
  · have hlength := length_latest limit entries
    rw [heq, List.length_append, List.length_cons] at hlength
    omega

theorem expire_append_cons {cutoff : Instant} {e : Entry} (h : cutoff ≤ e.time)
    (before after : List Entry) :
    expire cutoff (before ++ e :: after) = expire cutoff before ++ e :: after := by
  have hkeep : expire cutoff (e :: after) = e :: after := by
    rw [expire, List.dropWhile_cons_of_neg]
    simpa using Instant.not_lt.2 h
  rw [expire, List.dropWhile_append]
  split
  · rename_i hnil
    rw [List.isEmpty_iff] at hnil
    rw [expire, hnil]
    exact hkeep
  · rfl

/-- An entry that is not too old heads what expiry leaves. -/
theorem exists_head_of_mem_expire {cutoff : Instant} {e : Entry} {entries : List Entry}
    (h : e ∈ expire cutoff entries) :
    ∃ dropped first rest, entries = dropped ++ first :: rest ∧ cutoff ≤ first.time ∧
      expire cutoff entries = first :: rest := by
  cases hs : expire cutoff entries with
  | nil => simp [hs] at h
  | cons first rest =>
    refine ⟨entries.takeWhile (fun e => e.time < cutoff), first, rest, ?_, ?_, rfl⟩
    · rw [← hs, expire, List.takeWhile_append_dropWhile]
    · have hhead := List.head?_dropWhile_not (fun e : Entry => decide (e.time < cutoff)) entries
      rw [← expire, hs] at hhead
      exact Instant.not_lt.1 (by simpa using hhead)

/-- An entry that is too old stays just if one that is not stands before it and the limit leaves
room for it. -/
theorem mem_retained_iff {limit : Nat} {cutoff : Instant} {entries : List Entry} {old : Entry}
    (hold : old.time < cutoff) :
    old ∈ latest limit (expire cutoff entries) ↔
      ∃ before fresh between after, entries = before ++ fresh :: between ++ old :: after ∧
        cutoff ≤ fresh.time ∧ after.length < limit := by
  constructor
  · intro hmem
    obtain ⟨dropped, first, rest, hentries, hfirst, hs⟩ :=
      exists_head_of_mem_expire ((latest_sublist _ _).mem hmem)
    obtain ⟨kept, after, heq, hlength⟩ := exists_of_mem_latest hmem
    rw [hs] at heq
    -- `old` is not the first entry left, because that one is not too old
    cases kept with
    | nil =>
      cases heq
      exact absurd hfirst (fun h => Instant.not_lt.2 h hold)
    | cons head between =>
      cases heq
      exact ⟨dropped, first, between, after, by simpa using hentries, hfirst, hlength⟩
  · rintro ⟨before, fresh, between, after, rfl, hfresh, hlength⟩
    rw [List.append_assoc, List.cons_append, expire_append_cons hfresh, ← List.cons_append,
      ← List.append_assoc]
    exact mem_latest_append hlength old _

/-! ### Windows of a run -/

theorem windowAfter_sublist (limit : Nat) (checks : List Check) :
    (windowAfter limit checks).Sublist (checks.map Check.entry) := by
  induction checks using List.reverseRecOn with
  | nil => exact List.Sublist.refl _
  | append_singleton checks c ih =>
    rw [windowAfter_append, List.map_append]
    exact ((latest_sublist _ _).trans (expire_sublist _ _)).trans
      (ih.append (List.Sublist.refl _))

/-- No reading older than the cutoff comes after one that is not. -/
def Settled (cutoff : Instant) (readings : List Instant) : Prop :=
  readings.Pairwise (fun earlier later => cutoff ≤ earlier → cutoff ≤ later)

theorem settled_of_ascending {readings : List Instant} (h : readings.Pairwise (· ≤ ·))
    (cutoff : Instant) : Settled cutoff readings :=
  h.imp (fun hle hc => Instant.le_trans hc hle)

theorem le_of_mem_retained {limit : Nat} {cutoff : Instant} {entries : List Entry}
    (h : Settled cutoff (entries.map Entry.time)) {e : Entry}
    (he : e ∈ latest limit (expire cutoff entries)) : cutoff ≤ e.time := by
  by_contra hold
  obtain ⟨before, fresh, between, after, rfl, hfresh, -⟩ :=
    (mem_retained_iff (by_contra (fun hn => hold (Instant.not_lt.1 hn)))).1 he
  have hpairs := List.pairwise_map.1 h
  exact hold ((List.pairwise_append.1 hpairs).2.2 fresh (by simp) e List.mem_cons_self hfresh)

theorem settled_window {cutoff : Instant} {limit : Nat} {checks : List Check} {c : Check}
    (h : Settled cutoff ((checks ++ [c]).map Check.now)) :
    Settled cutoff ((windowAfter limit checks ++ [c.entry]).map Entry.time) := by
  have hsub : ((windowAfter limit checks ++ [c.entry]).map Entry.time).Sublist
      (((checks ++ [c]).map Check.entry).map Entry.time) := by
    rw [List.map_append (f := Check.entry)]
    exact ((windowAfter_sublist limit checks).append (List.Sublist.refl _)).map _
  rw [List.map_map] at hsub
  exact List.Pairwise.sublist hsub h

/-- What a check at the end of any run of checks retains, and so counts, on whatever clock. -/
theorem retained_after_run (config : Config) (calls : List Call) (c : Call) :
    let before := ((ofConfig config).run calls).window c.policy ++ [c.toCheck.entry]
    let after := ((ofConfig config).run (calls ++ [c])).window c.policy
    let limit := max 1 config.maxEvents
    let cutoff := c.now.back c.rule.window
    after = before.drop (max (firstFresh cutoff before) (before.length - limit)) ∧
      (((ofConfig config).run calls).answer c).1 =
        decide (c.rule.threshold.count ≤ count c.rule.threshold after) ∧
      (∀ old, old.time < cutoff → (old ∈ after ↔
        ∃ sooner fresh between later, before = sooner ++ fresh :: between ++ old :: later ∧
          cutoff ≤ fresh.time ∧ later.length < limit)) ∧
      (Settled cutoff ((checksOf c.policy calls ++ [c.toCheck]).map Check.now) →
        ∀ e ∈ after, cutoff ≤ e.time) ∧
      (((checksOf c.policy calls ++ [c.toCheck]).map Check.now).Pairwise (· ≤ ·) →
        ∀ e ∈ after, cutoff ≤ e.time) := by
  intro before after limit cutoff
  have hlimit : ((ofConfig config).run calls).limit = limit := limit_run _ calls
  have hafter : after = latest limit (expire cutoff before) := by
    simp only [after]
    rw [run_append, answer, window_check_self, record_eq, hlimit]
    rfl
  have hsettled (h : Settled cutoff ((checksOf c.policy calls ++ [c.toCheck]).map Check.now)) :
      ∀ e ∈ after, cutoff ≤ e.time := by
    intro e he
    rw [hafter] at he
    apply le_of_mem_retained _ he
    simp only [before]
    rw [window_run]
    exact settled_window h
  refine ⟨?_, ?_, ?_, hsettled, fun h => hsettled (settled_of_ascending h cutoff)⟩
  · rw [hafter, latest_expire_eq_drop]
  · have hrecord : ((ofConfig config).run calls).record c.now c.rule.window c.event
        (((ofConfig config).run calls).window c.policy) = after := by
      rw [record_eq, hlimit, hafter]
      rfl
    rw [← hrecord]
    rfl
  · intro old hold
    rw [hafter]
    exact mem_retained_iff hold

/-- Three events within a minute, as the policy `pol` sees them at the given seconds. -/
def minuteCalls (readings : List Int) : List Call :=
  readings.map fun s => ⟨⟨s, 0⟩, "pol", ⟨60, ⟨3, none⟩⟩, .null⟩

/-- A clock that is set back, with all of its readings still within the last window. -/
theorem retained_after_small_setback :
    let calls := minuteCalls [100, 80]
    let c : Call := ⟨⟨120, 0⟩, "pol", ⟨60, ⟨3, none⟩⟩, .null⟩
    Settled (c.now.back c.rule.window)
        ((checksOf c.policy calls ++ [c.toCheck]).map Check.now) ∧
      ∀ e ∈ ((ofConfig {}).run (calls ++ [c])).window c.policy,
        c.now.back c.rule.window ≤ e.time := by
  intro calls c
  have hsettled : Settled (c.now.back c.rule.window)
      ((checksOf c.policy calls ++ [c.toCheck]).map Check.now) := by
    unfold Settled
    decide
  exact ⟨hsettled, (retained_after_run {} calls c).2.2.2.1 hsettled⟩

/-- A clock that is set back by ten minutes and goes on for five of them: the second event is four
minutes older than the window is long, and yet it is retained and counted. -/
theorem retained_after_setback :
    let calls := minuteCalls [600, 0]
    let c : Call := ⟨⟨300, 0⟩, "pol", ⟨60, ⟨3, none⟩⟩, .null⟩
    let old : Entry := ⟨⟨0, 0⟩, .null⟩
    old.time < c.now.back c.rule.window ∧
      old ∈ ((ofConfig {}).run (calls ++ [c])).window c.policy ∧
      (((ofConfig {}).run calls).answer c).1 = true ∧
      count c.rule.threshold ((((ofConfig {}).run (calls ++ [c])).window c.policy).filter
        (fun e => c.now.back c.rule.window ≤ e.time)) < c.rule.threshold.count := by
  decide

end LossPrevention.Tracker
