import Mathlib.Data.List.DropRight
import NameService.Text.Blank

/-!
# Trimmed texts

Trimming takes away the blank characters at both ends of a text and no others,
so what is left ends with none. A text is left as it is if neither of its ends
is blank, and nothing is left of a blank text only.
-/

namespace NameService
namespace Text

variable {text : List Char}

/-- A digit is not blank. -/
theorem isBlank_of_isDigit {c : Char} (digit : c.isDigit = true) :
    isBlank c = false := by
  simp only [Char.isDigit, Bool.and_eq_true, decide_eq_true_eq] at digit
  have lower : 48 ≤ c.toNat := digit.1
  have upper : c.toNat ≤ 57 := digit.2
  rw [isBlank, List.any_eq_false]
  intro range present
  simp only [blankRanges, List.mem_cons, List.not_mem_nil, or_false] at present
  simp only [Bool.and_eq_true, decide_eq_true_eq]
  rcases present with
    rfl | rfl | rfl | rfl | rfl | rfl | rfl | rfl | rfl | rfl <;> omega

/-! ## Ends -/

/-- No blank character stands at the end of a text. -/
def EndsSolid (text : List Char) : Prop :=
  ∀ c ∈ text.getLast?, isBlank c = false

-- The instance is named here: with more of the library at hand, the search for
-- one comes upon that for all characters first, which goes through every one of
-- them.
instance (text : List Char) : Decidable (EndsSolid text) :=
  Option.decidableForallMem text.getLast?

theorem endsSolid_iff :
    EndsSolid text ↔ ∀ nonempty, isBlank (text.getLast nonempty) = false := by
  constructor
  · intro solid nonempty
    exact solid _ (List.getLast?_eq_some_getLast nonempty)
  · intro solid c isLast
    obtain ⟨nonempty, rfl⟩ := List.mem_getLast?_eq_getLast isLast
    exact solid nonempty

/-- What stands at the end of a text ends as the text does. -/
theorem EndsSolid.of_append
    {front : List Char}
    (solid : EndsSolid (front ++ text)) :
    EndsSolid text := by
  intro c isLast
  refine solid c ?_
  rw [List.getLast?_append, Option.mem_def.mp isLast]
  rfl

/-- A text without blank characters at its end is not trimmed there, and no
other is left as it is. -/
theorem trimEnd_eq_self_iff : trimEnd text = text ↔ EndsSolid text := by
  rw [endsSolid_iff]
  exact List.rdropWhile_eq_self_iff.trans (by simp)

/-- What is left at the end of a text is not blank. -/
theorem endsSolid_trimEnd (text : List Char) : EndsSolid (trimEnd text) :=
  trimEnd_eq_self_iff.mp (List.rdropWhile_idempotent isBlank text)

/-- Trimming the end of a text goes no further than to a character that is not
blank. -/
theorem trimEnd_append_solid
    {c : Char}
    (solid : isBlank c = false)
    (front text : List Char) :
    trimEnd (front ++ c :: text) = front ++ c :: trimEnd text := by
  rw [trimEnd, List.reverse_append, List.reverse_cons, List.append_assoc,
    List.dropWhile_append]
  by_cases blank : (text.reverse.dropWhile isBlank).isEmpty = true
  · simp [trimEnd, List.isEmpty_iff.mp blank, solid]
  · simp [trimEnd, blank]

/-! ## Both ends -/

/-- A text that starts with a character that is not blank is trimmed at its end
only. -/
theorem trim_of_starts_solid
    {c : Char}
    (solid : isBlank c = false)
    (text : List Char) :
    trim (c :: text) = trimEnd (c :: text) := by
  simp [trim, trimStart, solid]

/-- What is left of a text does not end with a blank character. -/
theorem endsSolid_trim (text : List Char) :
    EndsSolid (trim text) := endsSolid_trimEnd _

/-- A text without blank characters is not trimmed. -/
theorem trim_of_no_blank (solid : ∀ c ∈ text, isBlank c = false) :
    trim text = text := by
  cases text with
  | nil => rfl
  | cons c rest =>
      rw [trim_of_starts_solid (solid c List.mem_cons_self),
        trimEnd_eq_self_iff]
      exact fun last isLast => solid last (List.mem_of_getLast? isLast)

/-- Nothing is left of a blank text, and of no other. -/
theorem trim_eq_nil_iff : trim text = [] ↔ allBlank text = true := by
  rw [allBlank, List.all_eq_true]
  refine List.rdropWhile_eq_nil_iff.trans ?_
  constructor
  · intro blank
    have starts : trimStart text = [] := by
      cases left : trimStart text with
      | nil => rfl
      | cons c rest =>
          have notBlank := List.head?_dropWhile_not isBlank text
          rw [show text.dropWhile isBlank = c :: rest from left] at notBlank
          simp [blank c (left ▸ List.mem_cons_self)] at notBlank
    exact List.dropWhile_eq_nil_iff.mp starts
  · intro blank c present
    exact blank c ((List.dropWhile_sublist isBlank).mem present)

end Text
end NameService
