import NameService.Text.Split

/-!
# Pieces of a text

What stands on both sides of a cut is split side by side, and what holds no cut
is one piece. No piece holds a cut. A text that is cut once is cut at the first
of them.
-/

namespace NameService
namespace Text

variable {α : Type} {cut : α → Bool}

/-- The pieces on both sides of a cut stand side by side. -/
theorem split_append
    (front : List α)
    {x : α}
    (isCut : cut x = true)
    (rest : List α) :
    split cut (front ++ x :: rest) = split cut front ++ split cut rest := by
  induction front with
  | nil => exact split_cons_cut isCut rest
  | cons y front hypothesis =>
      rw [List.cons_append, split, split, hypothesis]
      split
      · rfl
      · cases pieces : split cut front with
        | nil => exact absurd pieces (split_ne_nil cut front)
        | cons piece others => rfl

/-- A text without cuts is one piece. -/
theorem split_of_whole {text : List α} (whole : ∀ x ∈ text, cut x = false) :
    split cut text = [text] := by
  induction text with
  | nil => rfl
  | cons x rest hypothesis =>
      obtain ⟨own, others⟩ := List.forall_mem_cons.mp whole
      simp [split, own, hypothesis others]

/-- A text without cuts in front of a cut is the first piece. -/
theorem split_append_cut
    {piece : List α}
    (whole : ∀ x ∈ piece, cut x = false)
    {x : α}
    (isCut : cut x = true)
    (rest : List α) :
    split cut (piece ++ x :: rest) = piece :: split cut rest := by
  rw [split_append piece isCut, split_of_whole whole]
  rfl

/-- No piece of a text has a cut in it. -/
theorem cut_eq_false_of_mem_split
    {text piece : List α}
    (isPiece : piece ∈ split cut text)
    {x : α}
    (present : x ∈ piece) :
    cut x = false := by
  induction text generalizing piece with
  | nil =>
      obtain rfl : piece = [] := by simpa using isPiece
      cases present
  | cons y rest hypothesis =>
      rw [split] at isPiece
      split at isPiece
      · rcases List.mem_cons.mp isPiece with rfl | behind
        · cases present
        · exact hypothesis behind present
      · rename_i notCut
        split at isPiece
        · obtain rfl := List.mem_singleton.mp isPiece
          obtain rfl := List.mem_singleton.mp present
          simpa using notCut
        · rename_i first pieces split
          rcases List.mem_cons.mp isPiece with rfl | behind
          · rcases List.mem_cons.mp present with rfl | inFirst
            · simpa using notCut
            · exact hypothesis (split ▸ List.mem_cons_self) inFirst
          · exact hypothesis (split ▸ List.mem_cons_of_mem _ behind) present

/-! ## Cut once -/

/-- A text without cuts in front of a cut is cut off. -/
theorem splitOnce_append_cut
    {front : List α}
    (whole : ∀ x ∈ front, cut x = false)
    {x : α}
    (isCut : cut x = true)
    (rest : List α) :
    splitOnce cut (front ++ x :: rest) = some (front, rest) := by
  induction front with
  | nil => simp [splitOnce, isCut]
  | cons y front hypothesis =>
      have behind := hypothesis fun z present => whole z (.tail _ present)
      simp [splitOnce, whole y List.mem_cons_self, behind]

/-- A text is not cut exactly if it has no cut. -/
theorem splitOnce_eq_none_iff {text : List α} :
    splitOnce cut text = none ↔ ∀ x ∈ text, cut x = false := by
  induction text with
  | nil => simp
  | cons x text hypothesis =>
      rw [splitOnce, List.forall_mem_cons]
      split
      · rename_i isCut
        simp [isCut]
      · rename_i notCut
        simp [notCut, hypothesis]

/-- A text is cut once at its first cut. -/
theorem splitOnce_eq_some_iff {text front rest : List α} :
    splitOnce cut text = some (front, rest) ↔
      (∀ x ∈ front, cut x = false) ∧ ∃ x, cut x = true ∧
      text = front ++ x :: rest := by
  constructor
  · intro isSplit
    induction text generalizing front with
    | nil => cases isSplit
    | cons x text hypothesis =>
        rw [splitOnce] at isSplit
        split at isSplit
        · rename_i isCut
          obtain ⟨rfl, rfl⟩ := Prod.mk.inj (Option.some.inj isSplit)
          exact ⟨by simp, x, isCut, rfl⟩
        · rename_i notCut
          obtain ⟨⟨before, after⟩, behind, same⟩ :=
            Option.map_eq_some_iff.mp isSplit
          obtain ⟨rfl, rfl⟩ := Prod.mk.inj same
          obtain ⟨whole, y, isCut, rfl⟩ := hypothesis behind
          exact ⟨List.forall_mem_cons.mpr ⟨Bool.eq_false_iff.mpr notCut, whole⟩,
            y, isCut, rfl⟩
  · rintro ⟨whole, x, isCut, rfl⟩
    exact splitOnce_append_cut whole isCut rest

end Text
end NameService
