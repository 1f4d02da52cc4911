import LossPrevention.Proofs.Text.Digits
import LossPrevention.Text.Blank

/-!
Texts without the white space at their ends. Trimming takes white space away and nothing else, and
all of it.
-/

namespace LossPrevention.Text

variable {cs front core back : List Char}

/-- Nothing but white space. -/
def Blank (cs : List Char) : Prop := ∀ c ∈ cs, isBlank c = true

/-- White space neither begins the text nor ends it. -/
structure Bare (cs : List Char) : Prop where
  head : ∀ c ∈ cs.head?, isBlank c = false
  last : ∀ c ∈ cs.getLast?, isBlank c = false

theorem blank_nil : Blank [] := nofun

theorem Blank.reverse (h : Blank cs) : Blank cs.reverse := fun c hc => h c (List.mem_reverse.1 hc)

theorem exists_trimStart (cs : List Char) : ∃ front, Blank front ∧ cs = front ++ trimStart cs :=
  ⟨cs.takeWhile isBlank, fun _ => List.mem_takeWhile_imp, List.takeWhile_append_dropWhile.symm⟩

theorem trimStart_append (hfront : Blank front) (hcore : ∀ c ∈ core.head?, isBlank c = false) :
    trimStart (front ++ core) = core :=
  dropWhile_append_of_head hfront hcore

theorem exists_trimEnd (cs : List Char) : ∃ back, Blank back ∧ cs = trimEnd cs ++ back := by
  obtain ⟨front, hfront, hcs⟩ := exists_trimStart cs.reverse
  refine ⟨front.reverse, hfront.reverse, ?_⟩
  rw [trimEnd, ← List.reverse_append, ← hcs, List.reverse_reverse]

theorem trimEnd_append (hback : Blank back) (hcore : ∀ c ∈ core.getLast?, isBlank c = false) :
    trimEnd (core ++ back) = core := by
  rw [← List.head?_reverse] at hcore
  rw [trimEnd, List.reverse_append, trimStart_append hback.reverse hcore, List.reverse_reverse]

theorem exists_trimChars (cs : List Char) :
    ∃ front back, Blank front ∧ Blank back ∧ cs = front ++ trimChars cs ++ back := by
  obtain ⟨front, hfront, hstart⟩ := exists_trimStart cs
  obtain ⟨back, hback, hend⟩ := exists_trimEnd (trimStart cs)
  refine ⟨front, back, hfront, hback, ?_⟩
  rw [trimChars, List.append_assoc, ← hend, ← hstart]

theorem trimChars_append (hfront : Blank front) (hcore : Bare core) (hne : core ≠ [])
    (hback : Blank back) : trimChars (front ++ core ++ back) = core := by
  have hhead : ∀ c ∈ (core ++ back).head?, isBlank c = false := by
    obtain ⟨c, core, rfl⟩ := List.exists_cons_of_ne_nil hne
    exact hcore.head
  rw [trimChars, List.append_assoc, trimStart_append hfront hhead, trimEnd_append hback hcore.last]

end LossPrevention.Text
