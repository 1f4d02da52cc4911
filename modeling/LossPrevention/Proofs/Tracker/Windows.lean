import LossPrevention.Proofs.Doubles
import LossPrevention.Tracker
import Mathlib.Data.List.Induction
import Mathlib.Tactic.Set

/-!
Which window holds what. A check touches the window of its own policy only, and a reload keeps or
drops windows whole. Main statement: after any checks at ascending times a window holds the last
of the survivors, the entries that no check since has found too old, so the prefix that is thrown
away at every check is never missed.
-/

namespace LossPrevention.Tracker

open Json (Value)
open Time (Instant)

/-! ### Checks and windows -/

@[simp] theorem window_ofConfig (config : Config) (policy : String) :
    (ofConfig config).window policy = [] := rfl

@[simp] theorem limit_check (t : Tracker) (now : Instant) (policy : String)
    (rule : Policy.StatefulRule) (event : Value) :
    (t.check now policy rule event).2.limit = t.limit := rfl

@[simp] theorem limit_retain (keep : List String) (t : Tracker) :
    (t.retain keep).limit = t.limit := rfl

theorem get?_check_self (t : Tracker) (now : Instant) (policy : String)
    (rule : Policy.StatefulRule) (event : Value) :
    Keyed.get? policy (t.check now policy rule event).2.windows =
      some (t.record now rule.window event (t.window policy)) := by
  simp [check]

theorem get?_check_of_ne {policy other : String} (h : other ≠ policy) (t : Tracker)
    (now : Instant) (rule : Policy.StatefulRule) (event : Value) :
    Keyed.get? other (t.check now policy rule event).2.windows = Keyed.get? other t.windows := by
  simp [check, Keyed.get?_insert_of_ne h]

theorem window_check_self (t : Tracker) (now : Instant) (policy : String)
    (rule : Policy.StatefulRule) (event : Value) :
    (t.check now policy rule event).2.window policy =
      t.record now rule.window event (t.window policy) := by
  simp [window, get?_check_self]

theorem window_check_of_ne {policy other : String} (h : other ≠ policy) (t : Tracker)
    (now : Instant) (rule : Policy.StatefulRule) (event : Value) :
    (t.check now policy rule event).2.window other = t.window other := by
  simp [window, get?_check_of_ne h]

theorem window_retain (keep : List String) (t : Tracker) (policy : String) :
    (t.retain keep).window policy = if policy ∈ keep then t.window policy else [] := by
  unfold window retain
  rw [Keyed.get?_filter_keys (fun k => keep.contains k)]
  by_cases h : policy ∈ keep <;> simp [h]

theorem check_fst_congr {t u : Tracker} {policy : String} (hl : u.limit = t.limit)
    (hw : u.window policy = t.window policy) (now : Instant) (rule : Policy.StatefulRule)
    (event : Value) :
    (u.check now policy rule event).1 = (t.check now policy rule event).1 := by
  have hr : u.record now rule.window event (u.window policy) =
      t.record now rule.window event (t.window policy) := by
    rw [hw, record, hl, record]
  exact decide_eq_decide.2 (by rw [hr])

/-! ### Expiry and the limit -/

theorem latest_eq_self {limit : Nat} {entries : List Entry} (h : entries.length ≤ limit) :
    latest limit entries = entries := by
  simp [latest, Nat.sub_eq_zero_of_le h]

theorem length_latest (limit : Nat) (entries : List Entry) :
    (latest limit entries).length = min limit entries.length := by
  simp only [latest, List.length_drop]; omega

/-- What stands before enough entries makes no difference to the last ones. -/
theorem latest_append {limit : Nat} {entries : List Entry} (h : limit ≤ entries.length)
    (before : List Entry) : latest limit (before ++ entries) = latest limit entries := by
  unfold latest
  rw [List.length_append, List.drop_append]
  have hb : before.length + entries.length - limit ≥ before.length := by omega
  rw [List.drop_eq_nil_of_le hb, List.nil_append]
  congr 1
  omega

def Ascending (entries : List Entry) : Prop := entries.Pairwise (fun a b => a.time ≤ b.time)

/-- In a window in order the cutoff divides the old entries from the others. -/
theorem expire_eq_filter {entries : List Entry} (h : Ascending entries) (cutoff : Instant) :
    expire cutoff entries = entries.filter (fun e => cutoff ≤ e.time) := by
  induction entries with
  | nil => rfl
  | cons e rest ih =>
    have hrest : Ascending rest := (List.pairwise_cons.1 h).2
    by_cases he : e.time < cutoff
    · have hn : ¬ cutoff ≤ e.time := fun hc => Instant.not_lt.2 hc he
      rw [List.filter_cons_of_neg (by simpa using hn), ← ih hrest]
      simp [expire, he]
    · have hall : ∀ x ∈ e :: rest, cutoff ≤ x.time := by
        intro x hx
        rcases List.mem_cons.1 hx with rfl | hx
        · exact Instant.not_lt.1 he
        · exact Instant.le_trans (Instant.not_lt.1 he) ((List.pairwise_cons.1 h).1 x hx)
      rw [List.filter_eq_self.2 (by simpa using hall)]
      simp [expire, he]

/-- Entries that the limit has already dropped are not missed by the next check: either they
would have been too old for it, or there are enough later ones. -/
theorem latest_expire_append {kept : List Entry} {new : Entry} (h : Ascending (kept ++ [new]))
    (limit : Nat) (cutoff : Instant) :
    latest limit (expire cutoff (latest limit kept ++ [new])) =
      latest limit ((kept ++ [new]).filter (fun e => cutoff ≤ e.time)) := by
  have hsplit : latest limit kept ++ [new] = (kept ++ [new]).drop (kept.length - limit) := by
    rw [latest, List.drop_append_of_le_length (Nat.sub_le _ _)]
  rw [hsplit, expire_eq_filter (h.sublist (List.drop_sublist _ _))]
  set n := kept.length - limit with hn
  set all := kept ++ [new] with hall
  have hlen : all.length = kept.length + 1 := by simp [hall]
  have hparts : all.filter (fun e => cutoff ≤ e.time) =
      (all.take n).filter (fun e => cutoff ≤ e.time) ++
        (all.drop n).filter (fun e => cutoff ≤ e.time) := by
    rw [← List.filter_append, List.take_append_drop]
  rw [hparts]
  by_cases hold : ∃ e ∈ all.take n, cutoff ≤ e.time
  · obtain ⟨e, he, hc⟩ := hold
    have hfresh : ∀ x ∈ all.drop n, cutoff ≤ x.time := by
      intro x hx
      have hp : (all.take n ++ all.drop n).Pairwise (fun a b => a.time ≤ b.time) := by
        rw [List.take_append_drop]; exact h
      exact Instant.le_trans hc ((List.pairwise_append.1 hp).2.2 e he x hx)
    have hself : (all.drop n).filter (fun e => cutoff ≤ e.time) = all.drop n :=
      List.filter_eq_self.2 (by simpa using hfresh)
    have hn' : n ≠ 0 := by
      intro h0
      simp [h0] at he
    rw [hself, latest_append (by rw [List.length_drop]; omega)]
  · have hnil : (all.take n).filter (fun e => cutoff ≤ e.time) = [] := by
      apply List.filter_eq_nil_iff.2
      intro e he
      simpa using fun hc => hold ⟨e, he, hc⟩
    rw [hnil, List.nil_append]

/-! ### Different values -/

/-- The different values of a field that are there and not null. -/
def distinctValues (field : FieldPath) (entries : List Entry) : List Value :=
  ((entries.filterMap (fun e => field.resolve e.event)).filter (fun v => !v.isNull)).eraseDups

/-- Counting texts is counting values where different values have different texts. -/
theorem length_distinctTexts {field : FieldPath} {entries : List Entry}
    (h : ∀ v ∈ distinctValues field entries, ∀ w ∈ distinctValues field entries,
      v.compact = w.compact → v = w) :
    (distinctTexts field entries).length = (distinctValues field entries).length := by
  simp only [distinctValues, List.mem_eraseDups] at h
  rw [distinctTexts, distinctValues, length_eraseDups_map h]

/-! ### The survivors of a sequence of checks -/

/-- One check of a policy, with the length of the window at that time. -/
structure Check where
  now : Instant
  length : Nat
  event : Value

namespace Check

def entry (c : Check) : Entry := ⟨c.now, c.event⟩

def cutoff (c : Check) : Instant := c.now.back c.length

end Check

/-- The entries, oldest first, that lie at or after the cutoff of their own check and of every
later one. -/
def survivors : List Check → List Entry
  | [] => []
  | c :: later =>
      if ∀ d ∈ c :: later, d.cutoff ≤ c.now then c.entry :: survivors later else survivors later

/-- The window that checks of one policy leave behind, from an empty one. -/
def windowAfter (limit : Nat) (checks : List Check) : List Entry :=
  checks.foldl (fun entries c => latest limit (expire c.cutoff (entries ++ [c.entry]))) []

theorem survivors_append (checks : List Check) (c : Check) :
    survivors (checks ++ [c]) =
      (survivors checks ++ [c.entry]).filter (fun e => c.cutoff ≤ e.time) := by
  induction checks with
  | nil =>
    by_cases h : c.cutoff ≤ c.now <;> simp [survivors, Check.entry, h]
  | cons d later ih =>
    rw [List.cons_append, survivors, survivors, ih]
    by_cases hd : ∀ e ∈ d :: later, e.cutoff ≤ d.now
    · by_cases hc : c.cutoff ≤ d.now
      · have hall : ∀ e ∈ d :: (later ++ [c]), e.cutoff ≤ d.now := by
          intro e he
          rcases List.mem_append.1 (List.cons_append ▸ he : e ∈ (d :: later) ++ [c]) with he | he
          · exact hd e he
          · rw [List.mem_singleton.1 he]; exact hc
        rw [if_pos hall, if_pos hd, List.cons_append, List.filter_cons_of_pos]
        exact decide_eq_true hc
      · have hall : ¬ ∀ e ∈ d :: (later ++ [c]), e.cutoff ≤ d.now := fun h => hc (h c (by simp))
        rw [if_neg hall, if_pos hd, List.cons_append, List.filter_cons_of_neg]
        exact fun h => hc (of_decide_eq_true h)
    · have hall : ¬ ∀ e ∈ d :: (later ++ [c]), e.cutoff ≤ d.now := by
        intro h
        apply hd
        intro e he
        exact h e (by
          rcases List.mem_cons.1 he with rfl | he
          · exact List.mem_cons_self
          · exact List.mem_cons_of_mem _ (List.mem_append_left _ he))
      rw [if_neg hall, if_neg hd]

theorem survivors_sublist (checks : List Check) :
    (survivors checks).Sublist (checks.map Check.entry) := by
  induction checks with
  | nil => exact List.Sublist.refl _
  | cons c later ih =>
    rw [survivors, List.map_cons]
    split
    · exact ih.cons_cons _
    · exact ih.cons _

/-- Where no earlier cutoff is beyond the last one, only the last one matters. -/
theorem survivors_eq_filter {checks : List Check} {c : Check}
    (h : ∀ d ∈ checks, d.cutoff ≤ c.cutoff) :
    survivors (checks ++ [c]) =
      ((checks ++ [c]).map Check.entry).filter (fun e => c.cutoff ≤ e.time) := by
  induction checks with
  | nil =>
    by_cases hc : c.cutoff ≤ c.now <;> simp [survivors, Check.entry, hc]
  | cons d later ih =>
    have hlater := ih (fun e he => h e (List.mem_cons_of_mem _ he))
    have hlast : (∀ e ∈ d :: (later ++ [c]), e.cutoff ≤ d.now) ↔ c.cutoff ≤ d.now := by
      constructor
      · intro hall
        exact hall c (by simp)
      · intro hc e he
        rcases List.mem_append.1 (List.cons_append ▸ he : e ∈ (d :: later) ++ [c]) with he | he
        · exact Instant.le_trans (h e he) hc
        · rw [List.mem_singleton.1 he]; exact hc
    rw [List.cons_append, survivors, List.map_cons, hlater]
    by_cases hc : c.cutoff ≤ d.now
    · rw [if_pos (hlast.2 hc), List.filter_cons_of_pos]
      exact decide_eq_true hc
    · rw [if_neg (fun hall => hc (hlast.1 hall)), List.filter_cons_of_neg]
      exact fun hd => hc (of_decide_eq_true hd)

theorem windowAfter_append (limit : Nat) (checks : List Check) (c : Check) :
    windowAfter limit (checks ++ [c]) =
      latest limit (expire c.cutoff (windowAfter limit checks ++ [c.entry])) := by
  simp [windowAfter]

/-- Whatever lengths the window had, with a clock that never goes back it is the end of the list
of survivors. -/
theorem windowAfter_eq {checks : List Check} (h : checks.Pairwise (fun a b => a.now ≤ b.now))
    (limit : Nat) : windowAfter limit checks = latest limit (survivors checks) := by
  induction checks using List.reverseRecOn with
  | nil => simp [windowAfter, survivors, latest]
  | append_singleton checks c ih =>
    have hbefore := (List.pairwise_append.1 h).1
    have hasc : Ascending (survivors checks ++ [c.entry]) := by
      have hp : Ascending ((checks ++ [c]).map Check.entry) := List.pairwise_map.2 h
      rw [List.map_append] at hp
      exact hp.sublist ((survivors_sublist checks).append (List.Sublist.refl _))
    rw [windowAfter_append, ih hbefore, latest_expire_append hasc, survivors_append]

end LossPrevention.Tracker
