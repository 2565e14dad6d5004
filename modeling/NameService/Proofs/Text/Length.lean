import Mathlib.Data.String.Basic
import NameService.Proofs.Text.Decimal
import NameService.Word

/-!
# Bytes of numerals

A numeral has a byte for each digit, and that of a word has twenty at most. So
names that are made of numerals of words are short enough for files.
-/

namespace NameService
namespace Text

/-- Characters of one byte each make as many bytes. -/
theorem utf8Len_of_ascii
    {text : List Char}
    (ascii : ∀ c ∈ text, c.utf8Size = 1) :
    String.utf8Len text = text.length := by
  induction text with
  | nil => rfl
  | cons c text hypothesis =>
      obtain ⟨own, others⟩ := List.forall_mem_cons.mp ascii
      rw [String.utf8Len_cons, hypothesis others, own, List.length_cons]

/-- A digit has one byte. -/
theorem utf8Size_of_isDigit {c : Char} (digit : c.isDigit = true) :
    c.utf8Size = 1 := by
  simp only [Char.isDigit, Bool.and_eq_true, decide_eq_true_eq] at digit
  have upper : c.toNat ≤ 57 := digit.2
  rw [Char.utf8Size_eq_one_iff]
  exact show c.toNat ≤ 127 by omega

/-- How many bytes the numeral of a word has at most. -/
def wordLength : Nat := 20

/-- The numeral of a word is that short. -/
theorem utf8Len_decimal_le {value : Nat} (word : value ≤ Word.max) :
    String.utf8Len (decimal value) ≤ wordLength := by
  have limit : Word.max < 10 ^ wordLength := by decide
  rw [utf8Len_of_ascii fun c present =>
    utf8Size_of_isDigit (isDigit_of_mem_decimal present)]
  exact (Nat.length_toDigits_le_iff (by decide) (by decide)).mpr
    (Nat.lt_of_le_of_lt word limit)

end Text
end NameService
