import LossPrevention.Engine.Basic
import LossPrevention.Proofs.Tracker.Windows

/-!
What a load makes of the definitions: compilation keeps the identity of a policy, sifting keeps at
most one policy of an id and treats every id by itself, and ranking only changes the order.
-/

namespace LossPrevention.Policy

/-- Compilation hands these fields through and decides nothing by them. -/
structure Compiled (d : Definition) (p : Policy) : Prop where
  id : p.id = d.id
  enabled : p.enabled = d.enabled
  priority : p.priority = d.priority
  stopOnMatch : p.stopOnMatch = d.stopOnMatch

theorem compiled_of_compile {defaultWindow : Nat} {d : Definition} {p : Policy}
    (h : compile defaultWindow d = .ok p) : Compiled d p := by
  unfold compile at h
  split at h
  · cases h
  split at h
  · cases h
  split at h
  · cases h
  split at h
  · cases h
    exact ⟨rfl, rfl, rfl, rfl⟩
  · rename_i s _
    cases hs : StatefulRule.compile defaultWindow s with
    | error fault => rw [hs] at h; cases h
    | ok rule =>
        rw [hs] at h
        cases h
        exact ⟨rfl, rfl, rfl, rfl⟩

end LossPrevention.Policy

namespace LossPrevention.Engine

/-- The policies among the given ones that have the id. -/
def named (id : String) (policies : List Policy) : List Policy :=
  policies.filter (fun p => p.id = id)

/-- The definitions of an id alone. -/
def definitionsOf (id : String) (definitions : List Policy.Definition) : List Policy.Definition :=
  definitions.filter (fun d => d.id = id)

/-! ### Sifting -/

section Sift

variable (defaultWindow : Nat)

theorem sift_seen {seen : List String} {d : Policy.Definition} (h : d.id ∈ seen)
    (rest : List Policy.Definition) :
    (sift defaultWindow seen (d :: rest)).1 = (sift defaultWindow seen rest).1 := by
  simp [sift, h]

theorem sift_accepted {seen : List String} {d : Policy.Definition} (h : d.id ∉ seen) {p : Policy}
    (hp : Policy.compile defaultWindow d = .ok p) (rest : List Policy.Definition) :
    (sift defaultWindow seen (d :: rest)).1 = p :: (sift defaultWindow (d.id :: seen) rest).1 := by
  simp [sift, h, hp]

theorem sift_refused {seen : List String} {d : Policy.Definition} (h : d.id ∉ seen)
    {fault : Policy.Fault} (hp : Policy.compile defaultWindow d = .error fault)
    (rest : List Policy.Definition) :
    (sift defaultWindow seen (d :: rest)).1 = (sift defaultWindow (d.id :: seen) rest).1 := by
  simp [sift, h, hp]

theorem exists_of_mem_sift {seen : List String} {definitions : List Policy.Definition} {p : Policy}
    (h : p ∈ (sift defaultWindow seen definitions).1) :
    p.id ∉ seen ∧ ∃ d ∈ definitions, Policy.compile defaultWindow d = .ok p := by
  induction definitions generalizing seen with
  | nil => simp [sift] at h
  | cons d rest ih =>
    by_cases hs : d.id ∈ seen
    · rw [sift_seen _ hs] at h
      obtain ⟨hn, e, he, hc⟩ := ih h
      exact ⟨hn, e, List.mem_cons_of_mem _ he, hc⟩
    · cases hc : Policy.compile defaultWindow d with
      | ok q =>
          rw [sift_accepted _ hs hc] at h
          rcases List.mem_cons.1 h with rfl | h
          · exact ⟨(Policy.compiled_of_compile hc).id ▸ hs, d, List.mem_cons_self, hc⟩
          · obtain ⟨hn, e, he, hc⟩ := ih h
            exact ⟨fun hm => hn (List.mem_cons_of_mem _ hm), e, List.mem_cons_of_mem _ he, hc⟩
      | error fault =>
          rw [sift_refused _ hs hc] at h
          obtain ⟨hn, e, he, hc⟩ := ih h
          exact ⟨fun hm => hn (List.mem_cons_of_mem _ hm), e, List.mem_cons_of_mem _ he, hc⟩

theorem nodup_sift (seen : List String) (definitions : List Policy.Definition) :
    ((sift defaultWindow seen definitions).1.map Policy.id).Nodup := by
  induction definitions generalizing seen with
  | nil => simp [sift]
  | cons d rest ih =>
    by_cases hs : d.id ∈ seen
    · rw [sift_seen _ hs]; exact ih seen
    · cases hc : Policy.compile defaultWindow d with
      | ok p =>
          rw [sift_accepted _ hs hc, List.map_cons, List.nodup_cons]
          refine ⟨?_, ih _⟩
          intro hm
          obtain ⟨q, hq, hid⟩ := List.mem_map.1 hm
          have hn := (exists_of_mem_sift _ hq).1
          rw [hid, (Policy.compiled_of_compile hc).id] at hn
          exact hn List.mem_cons_self
      | error fault => rw [sift_refused _ hs hc]; exact ih _

/-- What becomes of an id depends on its own definitions only, and on whether it was seen. -/
theorem named_sift {id : String} {seen seen' : List String} (h : id ∈ seen ↔ id ∈ seen')
    (definitions : List Policy.Definition) :
    named id (sift defaultWindow seen definitions).1 =
      named id (sift defaultWindow seen' (definitionsOf id definitions)).1 := by
  induction definitions generalizing seen seen' with
  | nil => rfl
  | cons d rest ih =>
    by_cases hid : d.id = id
    · have hof : definitionsOf id (d :: rest) = d :: definitionsOf id rest := by
        simp [definitionsOf, hid]
      rw [hof]
      by_cases hs : d.id ∈ seen
      · have hs' : d.id ∈ seen' := hid ▸ h.1 (hid ▸ hs)
        rw [sift_seen _ hs, sift_seen _ hs']
        exact ih h
      · have hs' : d.id ∉ seen' := fun hm => hs (hid ▸ h.2 (hid ▸ hm))
        have hnext : id ∈ d.id :: seen ↔ id ∈ d.id :: seen' := by simp [hid]
        cases hc : Policy.compile defaultWindow d with
        | ok p =>
            rw [sift_accepted _ hs hc, sift_accepted _ hs' hc]
            have hp : p.id = id := (Policy.compiled_of_compile hc).id.trans hid
            simpa [named, hp] using ih hnext
        | error fault =>
            rw [sift_refused _ hs hc, sift_refused _ hs' hc]
            exact ih hnext
    · have hof : definitionsOf id (d :: rest) = definitionsOf id rest := by
        simp [definitionsOf, hid]
      rw [hof]
      by_cases hs : d.id ∈ seen
      · rw [sift_seen _ hs]; exact ih h
      · have hnext : id ∈ d.id :: seen ↔ id ∈ seen' := by simp [Ne.symm hid, h]
        cases hc : Policy.compile defaultWindow d with
        | ok p =>
            rw [sift_accepted _ hs hc]
            have hp : ¬ p.id = id := fun e => hid ((Policy.compiled_of_compile hc).id ▸ e)
            simpa [named, hp] using ih hnext
        | error fault => rw [sift_refused _ hs hc]; exact ih hnext

end Sift

/-! ### Ranking -/

theorem ranked_perm (policies : List Policy) : (ranked policies).Perm policies :=
  List.mergeSort_perm _ _

theorem ranked_pairwise (policies : List Policy) :
    (ranked policies).Pairwise (fun a b => b.priority ≤ a.priority) := by
  have h : (ranked policies).Pairwise (fun a b => decide (b.priority ≤ a.priority)) := by
    apply List.pairwise_mergeSort
    · intro a b c hab hbc
      simp only [decide_eq_true_eq] at *
      omega
    · intro a b
      simp only [Bool.or_eq_true, decide_eq_true_eq]
      omega
  exact h.imp (by simp)

theorem named_perm {ps qs : List Policy} (h : ps.Perm qs) (id : String) :
    (named id ps).Perm (named id qs) := h.filter _

theorem length_named_le {policies : List Policy} (h : (policies.map Policy.id).Nodup)
    (id : String) : (named id policies).length ≤ 1 := by
  induction policies with
  | nil => simp [named]
  | cons p rest ih =>
    rw [List.map_cons, List.nodup_cons] at h
    by_cases hp : p.id = id
    · have hnone : named id rest = [] := by
        apply List.filter_eq_nil_iff.2
        intro q hq he
        exact h.1 (List.mem_map.2 ⟨q, hq, (of_decide_eq_true he).trans hp.symm⟩)
      have hcons : named id (p :: rest) = p :: named id rest := by simp [named, hp]
      rw [hcons, hnone]
      exact Nat.le_refl _
    · have hcons : named id (p :: rest) = named id rest := by simp [named, hp]
      rw [hcons]
      exact ih h.2

theorem named_ranked {policies : List Policy} (h : (policies.map Policy.id).Nodup) (id : String) :
    named id (ranked policies) = named id policies := by
  have hp := named_perm (ranked_perm policies) id
  have hl := length_named_le h id
  generalize named id policies = only at hp hl ⊢
  cases only with
  | nil => exact hp.eq_nil
  | cons p rest =>
      have hrest : rest = [] := List.length_eq_zero_iff.1 (by simpa using hl)
      subst hrest
      exact List.perm_singleton.1 hp

/-! ### Loads -/

/-- The policies that a load of the definitions puts into force. -/
def loadedPolicies (defaultWindow : Nat) (definitions : List Policy.Definition) : List Policy :=
  ranked (sift defaultWindow [] definitions).1

theorem loadedPolicies_singleton {defaultWindow : Nat} {d : Policy.Definition} {p : Policy}
    (h : Policy.compile defaultWindow d = .ok p) : loadedPolicies defaultWindow [d] = [p] := by
  simp [loadedPolicies, sift, h, ranked]

theorem load_active (e : Engine) (definitions : List Policy.Definition) :
    (e.load definitions).2.active =
      some ⟨loadedPolicies e.defaultWindow definitions, e.generation + 1⟩ := rfl

theorem load_tracker (e : Engine) (definitions : List Policy.Definition) :
    (e.load definitions).2.tracker =
      e.tracker.retain ((loadedPolicies e.defaultWindow definitions).map Policy.id) := rfl

theorem nodup_loadedPolicies (defaultWindow : Nat) (definitions : List Policy.Definition) :
    ((loadedPolicies defaultWindow definitions).map Policy.id).Nodup :=
  ((ranked_perm _).map Policy.id).nodup_iff.2 (nodup_sift defaultWindow [] definitions)

theorem exists_of_mem_loadedPolicies {defaultWindow : Nat} {definitions : List Policy.Definition}
    {p : Policy} (h : p ∈ loadedPolicies defaultWindow definitions) :
    ∃ d ∈ definitions, Policy.compile defaultWindow d = .ok p :=
  (exists_of_mem_sift defaultWindow ((ranked_perm _).mem_iff.1 h)).2

theorem named_loadedPolicies (defaultWindow : Nat) (id : String)
    (definitions : List Policy.Definition) :
    named id (loadedPolicies defaultWindow definitions) =
      named id (loadedPolicies defaultWindow (definitionsOf id definitions)) := by
  unfold loadedPolicies
  rw [named_ranked (nodup_sift defaultWindow [] definitions),
    named_ranked (nodup_sift defaultWindow [] (definitionsOf id definitions))]
  exact named_sift defaultWindow Iff.rfl definitions

theorem mem_ids_iff (id : String) (policies : List Policy) :
    id ∈ policies.map Policy.id ↔ named id policies ≠ [] := by
  simp [named, List.filter_eq_nil_iff]

end LossPrevention.Engine
