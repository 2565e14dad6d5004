import Mathlib.Data.List.Sort
import NameService.Sorting

/-!
# Sorted items

Sorting by a total and transitive order puts the items in order. Where the order
tells all items apart, the result depends on the items alone and not on how they
were listed.
-/

namespace NameService
namespace Sorting

variable {α : Type} {below : α → α → Bool}

/-- An item is put in order. -/
theorem pairwise_insert
    (total : ∀ left right, below left right = false → below right left = true)
    (transitive : ∀ left middle right,
      below left middle = true → below middle right = true →
        below left right = true)
    (item : α)
    {items : List α}
    (sorted : items.Pairwise fun left right => below left right = true) :
    (insert below item items).Pairwise fun left right =>
      below left right = true := by
  induction items with
  | nil => simp
  | cons x rest hypothesis =>
      obtain ⟨first, behind⟩ := List.pairwise_cons.mp sorted
      by_cases isBelow : below item x = true
      · rw [insert, if_pos isBelow]
        refine List.pairwise_cons.mpr ⟨fun other present => ?_, sorted⟩
        rcases List.mem_cons.mp present with rfl | present
        · exact isBelow
        · exact transitive _ _ _ isBelow (first other present)
      · rw [insert, if_neg isBelow]
        refine List.pairwise_cons.mpr
          ⟨fun other present => ?_, hypothesis behind⟩
        have among := (insert_perm below item rest).mem_iff.mp present
        rcases List.mem_cons.mp among with rfl | present
        · exact total _ _ (by simpa using isBelow)
        · exact first other present

/-- Sorted items are in order. -/
theorem pairwise_sort
    (below : α → α → Bool)
    (total : ∀ left right, below left right = false → below right left = true)
    (transitive : ∀ left middle right,
      below left middle = true → below middle right = true →
        below left right = true)
    (items : List α) :
    (sort below items).Pairwise fun left right => below left right = true := by
  induction items with
  | nil => simp
  | cons x rest hypothesis =>
      exact pairwise_insert total transitive x hypothesis

/-- Items in an order that tells them apart are what sorting makes of them. -/
theorem sort_eq_of_pairwise
    (total : ∀ left right, below left right = false → below right left = true)
    (transitive : ∀ left middle right,
      below left middle = true → below middle right = true →
        below left right = true)
    {items ordered : List α}
    (apart : ∀ left ∈ items, ∀ right ∈ items,
      below left right = true → below right left = true → left = right)
    (same : items.Perm ordered)
    (sorted : ordered.Pairwise fun left right => below left right = true) :
    sort below items = ordered := by
  have permuted := sort_perm below items
  apply List.Perm.eq_of_pairwise ?_ (pairwise_sort below total transitive items)
    sorted (permuted.trans same)
  intro left right isLeft isRight forth back
  exact apart left (permuted.mem_iff.mp isLeft) right (same.mem_iff.mpr isRight)
    forth back

/-- Sorting does not see in which order items were listed that it tells
apart. -/
theorem sort_eq_sort_of_perm
    (total : ∀ left right, below left right = false → below right left = true)
    (transitive : ∀ left middle right,
      below left middle = true → below middle right = true →
        below left right = true)
    {items others : List α}
    (apart : ∀ left ∈ items, ∀ right ∈ items,
      below left right = true → below right left = true → left = right)
    (same : items.Perm others) :
    sort below items = sort below others :=
  sort_eq_of_pairwise total transitive apart
    (same.trans (sort_perm below others).symm)
    (pairwise_sort below total transitive others)

end Sorting
end NameService
