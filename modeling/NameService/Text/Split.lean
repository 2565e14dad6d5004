/-!
# Splitting

A sequence cut at every element of a class. The pieces between the cuts are
kept, empty ones too, so a sequence with `n` cuts has `n + 1` pieces.
-/

namespace NameService
namespace Text

/-- The pieces of a sequence between the elements that satisfy `cut`. -/
def split (cut : α → Bool) : List α → List (List α)
  | [] => [[]]
  | x :: rest =>
      if cut x then [] :: split cut rest
      else
        match split cut rest with
        | [] => [[x]]
        | piece :: pieces => (x :: piece) :: pieces

@[simp] theorem split_nil (cut : α → Bool) : split cut [] = [[]] := rfl

theorem split_ne_nil (cut : α → Bool) (text : List α) :
    split cut text ≠ [] := by
  cases text with
  | nil => simp
  | cons x rest =>
      unfold split
      split
      · simp
      · split <;> simp

theorem split_cons_cut
    {cut : α → Bool}
    {x : α}
    (isCut : cut x = true)
    (rest : List α) :
    split cut (x :: rest) = [] :: split cut rest := by
  simp [split, isCut]

/-- The part before the first cut and the part after it, if there is a cut. -/
def splitOnce (cut : α → Bool) : List α → Option (List α × List α)
  | [] => none
  | x :: rest =>
      if cut x then some ([], rest)
      else (splitOnce cut rest).map fun (before, after) => (x :: before, after)

@[simp] theorem splitOnce_nil (cut : α → Bool) : splitOnce cut [] = none := rfl

/-- The part before the last cut and the part after it, if there is a cut. -/
def splitAtLast (cut : α → Bool) : List α → Option (List α × List α)
  | [] => none
  | x :: rest =>
      match splitAtLast cut rest with
      | some (before, after) => some (x :: before, after)
      | none => if cut x then some ([], rest) else none

@[simp] theorem splitAtLast_nil (cut : α → Bool) :
    splitAtLast cut [] = none := rfl

end Text
end NameService
