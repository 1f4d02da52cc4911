import LossPrevention.Proofs.Enforcement.Execution

/-!
Merging as a way to put outcomes together. On coherent outcomes it is associative and the empty
outcome changes nothing, so the actions on an event may be carried out in parts. Main statement:
these laws, that enforcement follows them as long as the executor answers the same, and that the
first outcome that blocks gives the reason, and the first that quarantines the place and the reason.
-/

namespace LossPrevention.Enforcement

open Json (Value)
open Policy (Match)

namespace Outcome

variable {a b c start : Outcome} {outcomes others : List Outcome}

theorem merge_eq (a : Outcome) (hb : Coherent b) :
    a.merge b = {
      blocked := a.blocked || b.blocked
      blockReason := a.blockReason.or b.blockReason
      quarantined := a.quarantined || b.quarantined
      quarantinePath := a.quarantinePath.or b.quarantinePath
      quarantineReason := a.quarantineReason.or b.quarantineReason
      alerts := a.alerts ++ b.alerts
      notifications := a.notifications ++ b.notifications
      failures := a.failures ++ b.failures } := by
  rw [merge, first_eq_or hb.block, first_eq_or hb.path, first_eq_or hb.reason]

theorem merge_assoc (a : Outcome) (hb : Coherent b) (hc : Coherent c) :
    (a.merge b).merge c = a.merge (b.merge c) := by
  rw [merge_eq _ hc, merge_eq a (coherent_merge hb hc), merge_eq a hb, merge_eq b hc]
  simp only [Bool.or_assoc, Option.or_assoc, List.append_assoc]

theorem empty_merge (hb : Coherent b) : merge {} b = b := by
  rw [merge_eq {} hb]
  simp only [Bool.false_or, Option.none_or, List.nil_append]

theorem merge_empty (a : Outcome) : a.merge {} = a := by
  rw [merge_eq a coherent_empty]
  simp only [Bool.or_false, Option.or_none, List.append_nil]

theorem foldl_merge (start : Outcome) (h : ∀ o ∈ outcomes, Coherent o) :
    outcomes.foldl merge start = start.merge (mergeAll outcomes) := by
  induction outcomes generalizing start with
  | nil => exact (merge_empty start).symm
  | cons o rest ih =>
      obtain ⟨ho, hrest⟩ := List.forall_mem_cons.1 h
      have hfirst : mergeAll (o :: rest) = o.merge (mergeAll rest) := by
        rw [mergeAll, List.foldl_cons, ih _ hrest, empty_merge ho]
      rw [List.foldl_cons, ih _ hrest, merge_assoc _ ho (coherent_mergeAll hrest), hfirst]

theorem mergeAll_cons (h : ∀ o ∈ a :: outcomes, Coherent o) :
    mergeAll (a :: outcomes) = a.merge (mergeAll outcomes) := by
  obtain ⟨ha, hrest⟩ := List.forall_mem_cons.1 h
  rw [mergeAll, List.foldl_cons, foldl_merge _ hrest, empty_merge ha]

theorem mergeAll_append (outcomes : List Outcome) (h : ∀ o ∈ others, Coherent o) :
    mergeAll (outcomes ++ others) = (mergeAll outcomes).merge (mergeAll others) := by
  rw [mergeAll, List.foldl_append, foldl_merge _ h]
  rfl

/-- A text that is there just where something is decided, and of which merging takes the first. -/
structure Decisive (decided : Outcome → Bool) (text : Outcome → Option String) : Prop where
  empty : text {} = none
  merge : ∀ a b, Coherent b → text (a.merge b) = (text a).or (text b)
  present : ∀ o, Coherent o → (text o).isSome = decided o

theorem decisive_blockReason : Decisive blocked blockReason :=
  ⟨rfl, fun _ _ hb => by rw [merge_eq _ hb], fun _ ho => ho.block⟩

theorem decisive_quarantinePath : Decisive quarantined quarantinePath :=
  ⟨rfl, fun _ _ hb => by rw [merge_eq _ hb], fun _ ho => ho.path⟩

theorem decisive_quarantineReason : Decisive quarantined quarantineReason :=
  ⟨rfl, fun _ _ hb => by rw [merge_eq _ hb], fun _ ho => ho.reason⟩

/-- The text is that of the first outcome that decides. -/
theorem Decisive.mergeAll {decided : Outcome → Bool} {text : Outcome → Option String}
    (hd : Decisive decided text) (h : ∀ o ∈ outcomes, Coherent o) :
    text (mergeAll outcomes) = (outcomes.find? decided).bind text := by
  induction outcomes with
  | nil => exact hd.empty
  | cons o rest ih =>
      obtain ⟨ho, hrest⟩ := List.forall_mem_cons.1 h
      rw [mergeAll_cons h, hd.merge _ _ (coherent_mergeAll hrest), ih hrest]
      have hpresent := hd.present o ho
      cases hdecided : decided o with
      | true =>
          rw [hdecided] at hpresent
          obtain ⟨s, hs⟩ := Option.isSome_iff_exists.1 hpresent
          rw [List.find?_cons_of_pos hdecided, Option.bind_some, hs, Option.some_or]
      | false =>
          rw [hdecided, Option.isSome_eq_false_iff, Option.isNone_iff_eq_none] at hpresent
          rw [List.find?_cons_of_neg (Bool.not_eq_true _ ▸ hdecided), hpresent, Option.none_or]

end Outcome

/-! ### Enforcement in parts -/

section Parts

variable {σ σ₁ σ₂ : Type} (executor : Executor σ) (memory : σ) (matched others : List Match)
  (event : Value)

theorem calls_append :
    calls (matched ++ others) event = calls matched event ++ calls others event :=
  List.flatMap_append

theorem length_answers (requests : List Call) :
    (answers executor memory requests).1.length = requests.length := by
  induction requests generalizing memory with
  | nil => rfl
  | cons c rest ih => exact congrArg (· + 1) (ih _)

theorem answers_append (requests more : List Call) :
    answers executor memory (requests ++ more) =
      ((answers executor memory requests).1 ++
          (answers executor (answers executor memory requests).2 more).1,
        (answers executor (answers executor memory requests).2 more).2) := by
  induction requests generalizing memory with
  | nil => rfl
  | cons c rest ih => simp only [List.cons_append, answers, ih]

theorem outcomes_append {requests more : List Call} {replies others : List (Option Failure)}
    (h : replies.length = requests.length) :
    outcomes (requests ++ more) (replies ++ others) =
      outcomes requests replies ++ outcomes more others := by
  rw [outcomes, List.zip_append h.symm, List.map_append, outcomes, outcomes]

variable {executor memory matched others event}

/-- Two parts may be carried out by different executors if they answer as one does for all. -/
theorem enforce_parts {executor₁ : Executor σ₁} {executor₂ : Executor σ₂} {memory₁ : σ₁}
    {memory₂ : σ₂}
    (h : (answers executor memory (calls (matched ++ others) event)).1 =
      (answers executor₁ memory₁ (calls matched event)).1 ++
        (answers executor₂ memory₂ (calls others event)).1) :
    (enforce executor memory (matched ++ others) event).1 =
      (enforce executor₁ memory₁ matched event).1.merge
        (enforce executor₂ memory₂ others event).1 := by
  rw [enforce_eq, h, calls_append, outcomes_append (length_answers _ _ _),
    Outcome.mergeAll_append _ (coherent_outcomes _ _)]
  rfl

theorem enforce_append :
    enforce executor memory (matched ++ others) event =
      let first := enforce executor memory matched event
      let second := enforce executor first.2 others event
      (first.1.merge second.1, second.2) := by
  have hanswers := answers_append executor memory (calls matched event) (calls others event)
  rw [← calls_append] at hanswers
  exact Prod.ext (enforce_parts (congrArg Prod.fst hanswers)) (congrArg Prod.snd hanswers :)

end Parts

/-- Coherent outcomes merge like the elements of a monoid, and so do the outcomes of the parts of an
enforcement when the executor answers the same in them. What is merged blocks for the reason of the
first outcome that blocks, and the first that quarantines gives both the place and the reason. -/
theorem merging_laws :
    Outcome.Coherent {} ∧
    (∀ a b : Outcome, a.Coherent → b.Coherent → (a.merge b).Coherent) ∧
    (∀ a b c : Outcome, a.Coherent → b.Coherent → c.Coherent →
      (a.merge b).merge c = a.merge (b.merge c)) ∧
    (∀ a : Outcome, a.Coherent → Outcome.merge {} a = a ∧ a.merge {} = a) ∧
    (∀ outcomes : List Outcome, (∀ o ∈ outcomes, o.Coherent) →
      let merged := Outcome.mergeAll outcomes
      merged.Coherent ∧
      merged.blockReason = (outcomes.find? Outcome.blocked).bind Outcome.blockReason ∧
      merged.quarantinePath = (outcomes.find? Outcome.quarantined).bind Outcome.quarantinePath ∧
      merged.quarantineReason =
        (outcomes.find? Outcome.quarantined).bind Outcome.quarantineReason) ∧
    (∀ (σ : Type) (executor : Executor σ) (memory : σ) (matched others : List Match)
      (event : Value),
      let first := enforce executor memory matched event
      let second := enforce executor first.2 others event
      enforce executor memory (matched ++ others) event = (first.1.merge second.1, second.2)) ∧
    ∀ (σ σ₁ σ₂ : Type) (executor : Executor σ) (executor₁ : Executor σ₁)
      (executor₂ : Executor σ₂) (memory : σ) (memory₁ : σ₁) (memory₂ : σ₂)
      (matched others : List Match) (event : Value),
      (answers executor memory (calls (matched ++ others) event)).1 =
        (answers executor₁ memory₁ (calls matched event)).1 ++
          (answers executor₂ memory₂ (calls others event)).1 →
      (enforce executor memory (matched ++ others) event).1 =
        (enforce executor₁ memory₁ matched event).1.merge
          (enforce executor₂ memory₂ others event).1 := by
  refine ⟨Outcome.coherent_empty, fun a b => Outcome.coherent_merge,
    fun a b c _ => Outcome.merge_assoc a, fun a ha => ⟨Outcome.empty_merge ha, a.merge_empty⟩,
    fun outcomes h => ⟨Outcome.coherent_mergeAll h, ?_, ?_, ?_⟩,
    fun _ _ _ _ _ _ => enforce_append, fun _ _ _ _ _ _ _ _ _ _ _ _ => enforce_parts⟩
  · exact Outcome.decisive_blockReason.mergeAll h
  · exact Outcome.decisive_quarantinePath.mergeAll h
  · exact Outcome.decisive_quarantineReason.mergeAll h

def blocking (reason : String) : Outcome := { blocked := true, blockReason := some reason }

def moving (place reason : String) : Outcome where
  quarantined := true
  quarantinePath := some place
  quarantineReason := some reason

/-- The executor that does nothing about blocks and quarantines answers the same in both parts. -/
theorem merging_laws_two :
    (blocking "card").Coherent ∧ (moving "/vault" "number").Coherent ∧
    (Outcome.merge (moving "/vault" "number") (blocking "card")).merge (moving "/tmp" "card") =
      (moving "/vault" "number").merge ((blocking "card").merge (moving "/tmp" "card")) ∧
    (let merged := Outcome.mergeAll [blocking "card", moving "/vault" "number", blocking "again",
      moving "/tmp" "card"]
    merged.blockReason = some "card" ∧ merged.quarantinePath = some "/vault" ∧
      merged.quarantineReason = some "number") ∧
    let matched := (twoPolicies.policies.map Policy.toMatch).take 1
    let others := (twoPolicies.policies.map Policy.toMatch).drop 1
    (enforce (.answering powerless) [] (matched ++ others) fileEvent).1 =
      (enforce (.answering powerless) [] matched fileEvent).1.merge
        (enforce (.answering powerless) [] others fileEvent).1 := by
  obtain ⟨-, -, hassoc, -, hfirst, -, hparts⟩ := merging_laws
  have hblocking (reason : String) : (blocking reason).Coherent := ⟨rfl, rfl, rfl⟩
  have hmoving (place reason : String) : (moving place reason).Coherent := ⟨rfl, rfl, rfl⟩
  have hmerged := hfirst [blocking "card", moving "/vault" "number", blocking "again",
    moving "/tmp" "card"] (by simp [hblocking, hmoving])
  refine ⟨hblocking _, hmoving _ _, hassoc _ _ _ (hmoving _ _) (hblocking _) (hmoving _ _), ?_, ?_⟩
  · exact ⟨hmerged.2.1, hmerged.2.2.1, hmerged.2.2.2⟩
  · exact hparts _ _ _ _ _ _ _ _ _ _ _ _ (by decide +kernel)

end LossPrevention.Enforcement
