import Mathlib.Data.Finset.Card
import Mathlib.Data.Finset.Image

/-!
Lists without their doubles. What is left has every member once, so its length counts the different
members, and it makes no difference whether members or their images under a function that keeps
them apart are counted.
-/

namespace LossPrevention

variable {α β : Type} [DecidableEq α] [DecidableEq β]

theorem nodup_eraseDups (xs : List α) : xs.eraseDups.Nodup := by
  cases xs with
  | nil => exact List.nodup_nil
  | cons x rest =>
      rw [List.eraseDups_cons, List.nodup_cons]
      refine ⟨?_, nodup_eraseDups (rest.filter fun y => !y == x)⟩
      rw [List.mem_eraseDups]
      simp
termination_by xs.length
decreasing_by exact Nat.lt_succ_of_le (List.length_filter_le ..)

theorem toFinset_eraseDups (xs : List α) : xs.eraseDups.toFinset = xs.toFinset := by
  ext x
  rw [List.mem_toFinset, List.mem_toFinset, List.mem_eraseDups]

theorem length_eraseDups (xs : List α) : xs.eraseDups.length = xs.toFinset.card := by
  rw [← toFinset_eraseDups, List.toFinset_card_of_nodup (nodup_eraseDups xs)]

theorem length_eraseDups_mono {xs ys : List α} (h : ∀ x ∈ xs, x ∈ ys) :
    xs.eraseDups.length ≤ ys.eraseDups.length := by
  rw [length_eraseDups, length_eraseDups]
  refine Finset.card_le_card ?_
  intro x hx
  exact List.mem_toFinset.2 (h x (List.mem_toFinset.1 hx))

theorem length_eraseDups_map {f : α → β} {xs : List α}
    (h : ∀ x ∈ xs, ∀ y ∈ xs, f x = f y → x = y) :
    (xs.map f).eraseDups.length = xs.eraseDups.length := by
  have himage : (xs.map f).toFinset = xs.toFinset.image f := by
    ext y
    simp
  rw [length_eraseDups, length_eraseDups, himage]
  refine Finset.card_image_of_injOn ?_
  intro x hx y hy heq
  exact h x (List.mem_toFinset.1 hx) y (List.mem_toFinset.1 hy) heq

end LossPrevention
