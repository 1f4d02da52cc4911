import LossPrevention.Proofs.Engine.Loading

/-!
What a load makes of several definitions with one id. Main statement: the first one decides. All
others are refused as duplicates of it, even if it cannot be used itself.
-/

namespace LossPrevention.Engine

/-- A rejection of the id for having been seen before. -/
def isDuplicate (words : Complaints) (id : String) (r : Rejection) : Bool :=
  r.id = id && r.reason.text words = "duplicate policy id"

section Sift

variable {words : Complaints} {defaultWindow : Nat} {id : String} {seen : List String}
  {d : Policy.Definition} {rest : List Policy.Definition}

theorem isDuplicate_duplicate (id other : String) :
    isDuplicate words id ⟨other, .duplicate⟩ = decide (other = id) := Bool.and_true _

theorem isDuplicate_fault (id other : String) (fault : Policy.Fault) :
    isDuplicate words id ⟨other, .fault fault⟩ = false := by
  have htext : (Reason.fault fault).text words ≠ "duplicate policy id" := by
    intro h
    have hlist : "policy error: ".toList ++ (fault.message words).toList =
        "duplicate policy id".toList := by
      rw [← String.toList_append]
      exact congrArg String.toList h
    have hhead : some 'p' = some 'd' := congrArg List.head? hlist
    exact absurd hhead (by decide)
  rw [isDuplicate, decide_eq_false htext, Bool.and_false]

theorem rejected_sift_seen (h : d.id ∈ seen) :
    (sift defaultWindow seen (d :: rest)).2 =
      ⟨d.id, .duplicate⟩ :: (sift defaultWindow seen rest).2 := by
  simp [sift, h]

theorem duplicates_sift_new (h : d.id ∉ seen) :
    (sift defaultWindow seen (d :: rest)).2.countP (isDuplicate words id) =
      (sift defaultWindow (d.id :: seen) rest).2.countP (isDuplicate words id) := by
  cases hc : Policy.compile defaultWindow d with
  | ok policy => simp [sift, h, hc]
  | error fault => simp [sift, h, hc, isDuplicate_fault]

theorem definitionsOf_cons_self (h : d.id = id) :
    definitionsOf id (d :: rest) = d :: definitionsOf id rest :=
  List.filter_cons_of_pos (by simpa using h)

theorem definitionsOf_cons_of_ne (h : d.id ≠ id) :
    definitionsOf id (d :: rest) = definitionsOf id rest :=
  List.filter_cons_of_neg (by simpa using h)

/-- Every definition of an id is a duplicate but for the first one that was not seen. -/
theorem duplicates_sift (definitions : List Policy.Definition) :
    (sift defaultWindow seen definitions).2.countP (isDuplicate words id) =
      (definitionsOf id definitions).length - if id ∈ seen then 0 else 1 := by
  induction definitions generalizing seen with
  | nil => exact (Nat.zero_sub _).symm
  | cons d rest ih =>
      by_cases hid : d.id = id
      · rw [definitionsOf_cons_self hid, List.length_cons]
        by_cases hs : d.id ∈ seen
        · rw [rejected_sift_seen hs, List.countP_cons, isDuplicate_duplicate, decide_eq_true hid,
            ih, if_pos (hid ▸ hs), if_pos rfl, Nat.sub_zero, Nat.sub_zero]
        · rw [duplicates_sift_new hs, ih, hid, if_pos List.mem_cons_self, if_neg (hid ▸ hs)]
          rfl
      · rw [definitionsOf_cons_of_ne hid]
        by_cases hs : d.id ∈ seen
        · rw [rejected_sift_seen hs, List.countP_cons, isDuplicate_duplicate, decide_eq_false hid,
            ih, if_neg Bool.false_ne_true, Nat.add_zero]
        · have hmem : id ∈ d.id :: seen ↔ id ∈ seen := by simp [Ne.symm hid]
          rw [duplicates_sift_new hs, ih]
          simp only [hmem]

/-- The policy that the first definition of an id comes to. -/
def first? (defaultWindow : Nat) (id : String) (definitions : List Policy.Definition) :
    Option Policy :=
  (definitionsOf id definitions).head?.bind fun d => (Policy.compile defaultWindow d).toOption

theorem named_sift_of_mem (h : id ∈ seen) (definitions : List Policy.Definition) :
    named id (sift defaultWindow seen definitions).1 = [] := by
  refine List.filter_eq_nil_iff.2 fun p hp hid => ?_
  exact (exists_of_mem_sift defaultWindow hp).1 (of_decide_eq_true hid ▸ h)

theorem named_sift_eq_first (definitions : List Policy.Definition) :
    named id (sift defaultWindow [] definitions).1 =
      (first? defaultWindow id definitions).toList := by
  have hids : ∀ d ∈ definitionsOf id definitions, d.id = id :=
    fun d hd => of_decide_eq_true (List.mem_filter.1 hd).2
  rw [named_sift defaultWindow Iff.rfl, first?]
  cases hof : definitionsOf id definitions with
  | nil => rfl
  | cons d rest =>
      have hid : d.id = id := hids d (hof ▸ List.mem_cons_self)
      have hrest : named id (sift defaultWindow [d.id] rest).1 = [] :=
        named_sift_of_mem (List.mem_singleton.2 hid.symm) rest
      cases hc : Policy.compile defaultWindow d with
      | ok policy =>
          have hpolicy : policy.id = id := (Policy.compiled_of_compile hc).id.trans hid
          have hnamed : named id (policy :: (sift defaultWindow [d.id] rest).1) =
              policy :: named id (sift defaultWindow [d.id] rest).1 :=
            List.filter_cons_of_pos (decide_eq_true hpolicy)
          rw [sift_accepted _ List.not_mem_nil hc, hnamed, hrest]
          simp [hc, Except.toOption]
      | error fault =>
          rw [sift_refused _ List.not_mem_nil hc, hrest]
          simp [hc, Except.toOption]

end Sift

/-- What a load says of an id, and which policies of the id it puts into force. -/
structure FirstDecides (words : Complaints) (defaultWindow : Nat)
    (definitions : List Policy.Definition) (id : String) (report : Report) (set : PolicySet) :
    Prop where
  duplicates : report.rejected.countP (isDuplicate words id) =
    (definitionsOf id definitions).length - 1
  kept : named id set.policies = (first? defaultWindow id definitions).toList
  present : id ∈ set.policies.map Policy.id ↔ (first? defaultWindow id definitions).isSome
  favoured : ((∃ r ∈ report.rejected, isDuplicate words id r = true) →
      id ∈ set.policies.map Policy.id) ↔
    (definitionsOf id definitions).length ≤ 1 ∨ (first? defaultWindow id definitions).isSome

theorem load_first_decides (words : Complaints) (e : Engine) (definitions : List Policy.Definition)
    (id : String) :
    ∃ set, (e.load definitions).2.active = some set ∧
      FirstDecides words e.defaultWindow definitions id (e.load definitions).1 set := by
  have hduplicates : (e.load definitions).1.rejected.countP (isDuplicate words id) =
      (definitionsOf id definitions).length - 1 := duplicates_sift definitions
  have hkept : named id (loadedPolicies e.defaultWindow definitions) =
      (first? e.defaultWindow id definitions).toList :=
    (named_ranked (nodup_sift _ _ _) id).trans (named_sift_eq_first definitions)
  have hpresent : id ∈ (loadedPolicies e.defaultWindow definitions).map Policy.id ↔
      (first? e.defaultWindow id definitions).isSome := by
    rw [mem_ids_iff, hkept]
    cases first? e.defaultWindow id definitions <;> simp
  refine ⟨_, load_active e definitions, hduplicates, hkept, hpresent, ?_⟩
  rw [hpresent, ← List.countP_pos_iff, hduplicates, imp_iff_not_or, Nat.not_lt]
  refine or_congr_left ?_
  omega

/-- Two definitions with one id, the first of them without a name. -/
def namelessFirst : List Policy.Definition :=
  [{ id := "p", name := "", conditions := .all [] },
    { id := "p", name := "P", conditions := .all [] }]

/-- The definition that can be used is refused as a duplicate of one that is not kept. -/
theorem duplicate_of_nothing :
    let (report, after) := (Engine.ofConfig {}).load namelessFirst
    report.rejected.any (isDuplicate ⟨id, id, id⟩ "p") = true ∧
      (after.active.map fun set => set.policies.map Policy.id) = some [] ∧
      namelessFirst.any (fun d => (Policy.compile after.defaultWindow d).isOk) = true := by
  decide +kernel

end LossPrevention.Engine
