import LossPrevention.Document.Basic

/-!
Documents as JSON text has them: without scalars that wait for a type, tags and names, and with
texts as keys.
-/

namespace LossPrevention.Document

open Json (Number Value)

mutual

/-- A document as JSON text has it, with numbers as `P` has them. -/
def Strict (P : Number → Prop) : Document → Prop
  | null | bool _ | text _ => True
  | number n => P n
  | list items => StrictItems P items
  | record entries => StrictFields P entries
  | _ => False

def StrictItems (P : Number → Prop) : List Document → Prop
  | [] => True
  | d :: ds => Strict P d ∧ StrictItems P ds

def StrictFields (P : Number → Prop) : List (Document × Document) → Prop
  | [] => True
  | (text _, d) :: rest => Strict P d ∧ StrictFields P rest
  | _ => False

end

variable {P Q : Number → Prop}

theorem strictItems_iff {ds : List Document} : StrictItems P ds ↔ ∀ d ∈ ds, Strict P d := by
  induction ds with
  | nil => simp [StrictItems]
  | cons d ds ih => rw [StrictItems, ih, List.forall_mem_cons]

theorem strictFields_iff {entries : List (Document × Document)} :
    StrictFields P entries ↔ ∀ e ∈ entries, (∃ key, e.1 = text key) ∧ Strict P e.2 := by
  induction entries with
  | nil => simp [StrictFields]
  | cons e rest ih =>
      obtain ⟨k, d⟩ := e
      rw [List.forall_mem_cons]
      cases k <;> simp [StrictFields, ih]

mutual

/-- Every JSON value makes such a document. -/
theorem strict_ofValue : ∀ v : Value, (ofValue v).Strict fun _ => True
  | .null | .bool _ | .number _ | .text _ => trivial
  | .list items => strictItems_ofItems items
  | .object fields => strictFields_ofFields fields

theorem strictItems_ofItems : ∀ vs : List Value, StrictItems (fun _ => True) (ofItems vs)
  | [] => trivial
  | v :: vs => ⟨strict_ofValue v, strictItems_ofItems vs⟩

theorem strictFields_ofFields : ∀ fs : List (String × Value),
    StrictFields (fun _ => True) (ofFields fs)
  | [] => trivial
  | (_, v) :: fs => ⟨strict_ofValue v, strictFields_ofFields fs⟩

end

/-! ### Depth -/

theorem itemsDepth_le_iff {ds : List Document} {n : Nat} :
    itemsDepth ds ≤ n ↔ ∀ d ∈ ds, d.depth ≤ n := by
  induction ds with
  | nil => simp [itemsDepth]
  | cons d ds ih => rw [itemsDepth, Nat.max_le, ih, List.forall_mem_cons]

theorem fieldsDepth_le_iff {entries : List (Document × Document)} {n : Nat} :
    fieldsDepth entries ≤ n ↔ ∀ e ∈ entries, e.1.depth ≤ n ∧ e.2.depth ≤ n := by
  induction entries with
  | nil => simp [fieldsDepth]
  | cons e rest ih =>
      obtain ⟨k, d⟩ := e
      rw [fieldsDepth, Nat.max_le, Nat.max_le, ih, List.forall_mem_cons]

end LossPrevention.Document
