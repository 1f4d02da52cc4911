import LossPrevention.Proofs.Condition.Comparison

/-!
Whole conditions. Compiling one fails on the first of its comparisons, in the order written, that
cannot be used, and what it is compiled to says of an event what the tree says when it is read with
its connectives over what its comparisons say.
-/

namespace LossPrevention.Condition

open Json (Value)

namespace Spec

mutual

/-- The comparisons of a condition in the order written. -/
def comparisons : Spec → List Comparison
  | .all children => comparisonsOf children
  | .any children => comparisonsOf children
  | .not child => comparisons child
  | .leaf field operator literal => [⟨field, operator, literal⟩]

def comparisonsOf : List Spec → List Comparison
  | [] => []
  | s :: rest => comparisons s ++ comparisonsOf rest

end

def Holds (event : Value) : Spec → Prop
  | .all children => ∀ s ∈ children, Holds event s
  | .any children => ∃ s, ∃ _ : s ∈ children, Holds event s
  | .not child => ¬ Holds event child
  | .leaf field operator literal => Comparison.Holds ⟨field, operator, literal⟩ event

end Spec

/-! ### The first offence -/

/-- The first of the comparisons that cannot be used is refused with this. -/
def FirstOffence (cs : List Comparison) (fault : Fault) : Prop :=
  ∃ before c after, cs = before ++ c :: after ∧ (∀ b ∈ before, b.Usable) ∧ c.Offends fault

variable {cs ds : List Comparison} {fault : Fault}

theorem not_firstOffence_nil : ¬ FirstOffence [] fault := by
  rintro ⟨before, c, after, h, -, -⟩
  cases before <;> cases h

theorem firstOffence_cons {c : Comparison} :
    FirstOffence (c :: cs) fault ↔ c.Offends fault ∨ c.Usable ∧ FirstOffence cs fault := by
  constructor
  · rintro ⟨before, d, after, h, hbefore, hd⟩
    cases before with
    | nil =>
        cases h
        exact .inl hd
    | cons b before =>
        cases h
        obtain ⟨hb, hbefore⟩ := List.forall_mem_cons.1 hbefore
        exact .inr ⟨hb, before, d, after, rfl, hbefore, hd⟩
  · rintro (hc | ⟨hc, before, d, after, rfl, hbefore, hd⟩)
    · exact ⟨[], c, cs, rfl, by simp, hc⟩
    · exact ⟨c :: before, d, after, rfl, List.forall_mem_cons.2 ⟨hc, hbefore⟩, hd⟩

theorem firstOffence_append :
    FirstOffence (cs ++ ds) fault ↔
      FirstOffence cs fault ∨ (∀ c ∈ cs, c.Usable) ∧ FirstOffence ds fault := by
  induction cs with
  | nil => simp [not_firstOffence_nil]
  | cons c cs ih =>
      rw [List.cons_append, firstOffence_cons, firstOffence_cons, ih, List.forall_mem_cons]
      tauto

theorem usable_iff_not_firstOffence :
    (∀ c ∈ cs, c.Usable) ↔ ∀ fault, ¬ FirstOffence cs fault := by
  induction cs with
  | nil => simp [not_firstOffence_nil]
  | cons c cs ih =>
      rw [List.forall_mem_cons, ih]
      constructor
      · rintro ⟨hc, hcs⟩ fault h
        rcases firstOffence_cons.1 h with h | ⟨-, h⟩
        · exact hc.not_offends h
        · exact hcs fault h
      · intro h
        have hc : c.Usable := Comparison.usable_iff_forall_not_offends.2 fun fault ho =>
          h fault (firstOffence_cons.2 (.inl ho))
        exact ⟨hc, fun fault hcs => h fault (firstOffence_cons.2 (.inr ⟨hc, hcs⟩))⟩

/-! ### Compiling -/

theorem usable_of_ok {α : Type} {result : Except Fault α} {a : α}
    (herror : ∀ fault, result = .error fault ↔ FirstOffence cs fault) (h : result = .ok a) :
    ∀ c ∈ cs, c.Usable := by
  rw [usable_iff_not_firstOffence]
  intro fault hf
  cases h.symm.trans ((herror fault).2 hf)

mutual

theorem compile_eq_error_iff (fault : Fault) :
    ∀ spec : Spec, compile spec = .error fault ↔ FirstOffence spec.comparisons fault
  | .all children => by
      rw [compile, map_eq_error_iff, compileAll_eq_error_iff fault children, Spec.comparisons]
  | .any children => by
      rw [compile, map_eq_error_iff, compileAll_eq_error_iff fault children, Spec.comparisons]
  | .not child => by
      rw [compile, map_eq_error_iff, compile_eq_error_iff fault child, Spec.comparisons]
  | .leaf field operator literal => by
      rw [compile, Comparison.compileLeaf_eq_error_iff (c := ⟨field, operator, literal⟩),
        Spec.comparisons, firstOffence_cons]
      simp [not_firstOffence_nil]

theorem compileAll_eq_error_iff (fault : Fault) :
    ∀ children : List Spec,
      compileAll children = .error fault ↔ FirstOffence (Spec.comparisonsOf children) fault
  | [] => by simp [compileAll, Spec.comparisonsOf, not_firstOffence_nil]
  | s :: rest => by
      rw [Spec.comparisonsOf, firstOffence_append, ← compile_eq_error_iff fault s,
        ← compileAll_eq_error_iff fault rest, compileAll]
      cases hs : compile s with
      | error f =>
          have hoffence : FirstOffence s.comparisons f := (compile_eq_error_iff f s).1 hs
          have hunusable : ¬ ∀ c ∈ s.comparisons, c.Usable := fun h =>
            usable_iff_not_firstOffence.1 h f hoffence
          simp only [Except.error.injEq]
          exact (or_iff_left (mt And.left hunusable)).symm
      | ok condition =>
          have husable : ∀ c ∈ s.comparisons, c.Usable :=
            usable_of_ok (fun fault => compile_eq_error_iff fault s) hs
          simp only [reduceCtorEq, false_or, map_eq_error_iff]
          exact (and_iff_right husable).symm

end

theorem compileAll_cons_eq_ok {s : Spec} {rest : List Spec} {conditions : List Condition}
    (h : compileAll (s :: rest) = .ok conditions) :
    ∃ c cs, compile s = .ok c ∧ compileAll rest = .ok cs ∧ conditions = c :: cs := by
  rw [compileAll] at h
  cases hs : compile s with
  | error fault => simp [hs] at h
  | ok c =>
      rw [hs] at h
      obtain ⟨cs, hcs, rfl⟩ := map_eq_ok_iff.1 h
      exact ⟨c, cs, rfl, hcs, rfl⟩

mutual

theorem evaluate_iff_holds (event : Value) :
    ∀ (spec : Spec) {condition : Condition}, compile spec = .ok condition →
      (condition.evaluate event = true ↔ spec.Holds event)
  | .all children, condition, h => by
      obtain ⟨cs, hcs, rfl⟩ := map_eq_ok_iff.1 h
      rw [evaluate, Spec.Holds, evaluateAll_iff_holds event children hcs]
  | .any children, condition, h => by
      obtain ⟨cs, hcs, rfl⟩ := map_eq_ok_iff.1 h
      rw [evaluate, Spec.Holds, evaluateAny_iff_holds event children hcs]
      simp only [exists_prop]
  | .not child, condition, h => by
      obtain ⟨c, hc, rfl⟩ := map_eq_ok_iff.1 h
      rw [evaluate, Spec.Holds, Bool.not_eq_true', ← Bool.not_eq_true,
        evaluate_iff_holds event child hc]
  | .leaf field operator literal, condition, h => by
      rw [Spec.Holds]
      exact Comparison.evaluate_compileLeaf (c := ⟨field, operator, literal⟩) h event

theorem evaluateAll_iff_holds (event : Value) :
    ∀ (children : List Spec) {conditions : List Condition},
      compileAll children = .ok conditions →
      (evaluateAll event conditions = true ↔ ∀ s ∈ children, s.Holds event)
  | [], conditions, h => by
      cases h
      simp [evaluateAll]
  | s :: rest, conditions, h => by
      obtain ⟨c, cs, hs, hrest, rfl⟩ := compileAll_cons_eq_ok h
      rw [evaluateAll, Bool.and_eq_true, evaluate_iff_holds event s hs,
        evaluateAll_iff_holds event rest hrest, List.forall_mem_cons]

theorem evaluateAny_iff_holds (event : Value) :
    ∀ (children : List Spec) {conditions : List Condition},
      compileAll children = .ok conditions →
      (evaluateAny event conditions = true ↔ ∃ s ∈ children, s.Holds event)
  | [], conditions, h => by
      cases h
      simp [evaluateAny]
  | s :: rest, conditions, h => by
      obtain ⟨c, cs, hs, hrest, rfl⟩ := compileAll_cons_eq_ok h
      rw [evaluateAny, Bool.or_eq_true, evaluate_iff_holds event s hs,
        evaluateAny_iff_holds event rest hrest, List.exists_mem_cons_iff]

end

/-! ### What the operators have in common -/

namespace Operator

end Operator

end LossPrevention.Condition
