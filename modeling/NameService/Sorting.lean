/-!
# Sorting

Insertion sort by a Boolean order. Items that the order does not tell apart keep
their places.
-/

namespace NameService
namespace Sorting

/-- Put an item in front of the first one that it is not above. -/
def insert (below : α → α → Bool) (item : α) : List α → List α
  | [] => [item]
  | x :: rest => if below item x then item :: x :: rest else
    x :: insert below item rest

@[simp] theorem insert_nil (below : α → α → Bool) (item : α) :
    insert below item [] = [item] := rfl

theorem insert_perm (below : α → α → Bool) (item : α) (items : List α) :
    (insert below item items).Perm (item :: items) := by
  induction items with
  | nil => exact .refl _
  | cons x rest hypothesis =>
      by_cases isBelow : below item x
      · simp [insert, isBelow]
      · simp only [insert, isBelow, Bool.false_eq_true, if_false]
        exact (hypothesis.cons x).trans (.swap _ _ _)

/-- The items in ascending order. -/
def sort (below : α → α → Bool) : List α → List α
  | [] => []
  | x :: rest => insert below x (sort below rest)

@[simp] theorem sort_nil (below : α → α → Bool) : sort below [] = [] := rfl

theorem sort_perm (below : α → α → Bool) (items : List α) :
    (sort below items).Perm items := by
  induction items with
  | nil => exact .refl _
  | cons x rest hypothesis =>
      exact (insert_perm below x _).trans (hypothesis.cons x)

@[simp] theorem mem_sort (below : α → α → Bool) (items : List α) (item : α) :
    item ∈ sort below items ↔ item ∈ items := (sort_perm below items).mem_iff

@[simp] theorem length_sort (below : α → α → Bool) (items : List α) :
    (sort below items).length = items.length :=
  (sort_perm below items).length_eq

end Sorting
end NameService
