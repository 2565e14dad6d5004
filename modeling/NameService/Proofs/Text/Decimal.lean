import Mathlib.Data.List.Induction
import NameService.Text.Decimal

/-!
# Numerals read back

The decimal numeral of a word is a run of digits that starts with no sign, and
reading it gives the word back.
-/

namespace NameService
namespace Text

/-- Every character of a decimal numeral is a digit. -/
theorem isDigit_of_mem_decimal
    {value : Nat}
    {c : Char}
    (present : c ∈ decimal value) :
    c.isDigit = true :=
  Nat.isDigit_of_mem_toDigits (by decide) (by decide) present

/-- A decimal numeral has at least one digit. -/
@[simp] theorem decimal_ne_nil (value : Nat) :
    decimal value ≠ [] := Nat.toDigits_ne_nil

/-- A character that is no digit stands in no decimal numeral. -/
theorem not_mem_decimal
    {value : Nat}
    {c : Char}
    (notDigit : c.isDigit = false) :
    c ∉ decimal value := by
  intro present
  rw [isDigit_of_mem_decimal present] at notDigit
  cases notDigit

/-- Reading more digits does not lower the number read. -/
theorem le_ofDigitChars (digits : List Char) (value : Nat) :
    value ≤ Nat.ofDigitChars 10 digits value := by
  induction digits generalizing value with
  | nil => simp
  | cons c digits hypothesis =>
      rw [Nat.ofDigitChars_cons]
      exact Nat.le_trans (by omega) (hypothesis _)

/-- Digits whose number is a word are read as that number. -/
theorem readDigits_eq_ofDigitChars
    {digits : List Char}
    {value : Nat}
    (allDigits : ∀ c ∈ digits, c.isDigit = true)
    (word : Nat.ofDigitChars 10 digits value ≤ Word.max) :
    readDigits value digits = .ok (Nat.ofDigitChars 10 digits value) := by
  induction digits generalizing value with
  | nil => simp
  | cons c digits hypothesis =>
      rw [Nat.ofDigitChars_cons, Nat.mul_comm 10 value] at word ⊢
      have bounded : value * 10 + (c.toNat - '0'.toNat) ≤ Word.max :=
        Nat.le_trans (le_ofDigitChars _ _) word
      rw [readDigits, if_pos (allDigits c List.mem_cons_self)]
      simp only
      rw [if_pos bounded]
      exact hypothesis
        (fun d present => allDigits d (List.mem_cons_of_mem _ present)) word

/-- The digits of a word are read as the word. -/
theorem readDigits_decimal {value : Nat} (word : value ≤ Word.max) :
    readDigits 0 (decimal value) = .ok value := by
  have number : Nat.ofDigitChars 10 (decimal value) 0 = value :=
    Nat.ofDigitChars_ten_toDigits
  rw [readDigits_eq_ofDigitChars (fun _ => isDigit_of_mem_decimal)
    (by rwa [number]), number]

/-- A text that is not empty and starts with no sign is read digit by digit. -/
theorem readDecimal_of_digits
    {digits : List Char}
    (nonempty : digits ≠ [])
    (unsigned : '+' ∉ digits) :
    readDecimal digits = readDigits 0 digits := by
  cases digits with
  | nil => exact absurd rfl nonempty
  | cons c rest =>
      have noSign : c ≠ '+' := fun same => unsigned (same ▸ List.mem_cons_self)
      unfold readDecimal
      split
      · rename_i empty
        cases empty
      · rename_i signed
        exact absurd (List.cons.inj signed).1 noSign
      · rename_i digits _ signed
        exact absurd (List.cons.inj signed).1 noSign
      · rfl

/-- The numeral of a word reads back. -/
theorem readDecimal_decimal {value : Nat} (word : value ≤ Word.max) :
    readDecimal (decimal value) = .ok value := by
  rw [readDecimal_of_digits (decimal_ne_nil value)
    (not_mem_decimal (by decide)),
    readDigits_decimal word]

@[simp] theorem decimal?_decimal {value : Nat} (word : value ≤ Word.max) :
    decimal? (decimal value) = some value := by
  rw [decimal?, readDecimal_decimal word]
  rfl

theorem readDigits_le
    {digits : List Char}
    {value number : Nat}
    (word : value ≤ Word.max)
    (isRead : readDigits value digits = .ok number) :
    number ≤ Word.max := by
  induction digits generalizing value with
  | nil =>
      obtain rfl := Except.ok.inj isRead
      exact word
  | cons c rest hypothesis =>
      simp only [readDigits] at isRead
      split at isRead
      · split at isRead
        · rename_i within
          exact hypothesis within isRead
        · cases isRead
      · cases isRead

/-- Only words are read. -/
theorem readDecimal_le
    {text : List Char}
    {number : Nat}
    (isRead : readDecimal text = .ok number) :
    number ≤ Word.max := by
  unfold readDecimal at isRead
  split at isRead
  · cases isRead
  · cases isRead
  · exact readDigits_le (Nat.zero_le _) isRead
  · exact readDigits_le (Nat.zero_le _) isRead

/-- Numbers with one numeral are one number. -/
theorem decimal_injective
    {left right : Nat}
    (same : decimal left = decimal right) :
    left = right := by
  have leftNumber : Nat.ofDigitChars 10 (decimal left) 0 = left :=
    Nat.ofDigitChars_ten_toDigits
  have rightNumber : Nat.ofDigitChars 10 (decimal right) 0 = right :=
    Nat.ofDigitChars_ten_toDigits
  rw [← leftNumber, same, rightNumber]

/-! ## What else is read as a number -/

/-- What a numeral that is read may carry in front of its shortest form. -/
structure Padding where
  plus : Bool
  zeros : Nat
  deriving DecidableEq, Repr

namespace Padding

/-- No padding. -/
def none : Padding := ⟨false, 0⟩

/-- The plus sign, if there is one, and the zeros behind it. -/
def chars (padding : Padding) : List Char :=
  (if padding.plus then ['+'] else []) ++ List.replicate padding.zeros '0'

@[simp] theorem chars_none : none.chars = [] := rfl

/-- Padding without a character is none. -/
theorem eq_none_of_length
    {padding : Padding}
    (empty : padding.chars.length = 0) :
    padding = .none := by
  obtain ⟨plus, zeros⟩ := padding
  cases plus with
  | false => simpa [chars, none] using empty
  | true => simp [chars] at empty

end Padding

/-- A digit is the numeral of its number. -/
theorem decimal_of_isDigit {c : Char} (digit : c.isDigit = true) :
    c.toNat - '0'.toNat < 10 ∧ decimal (c.toNat - '0'.toNat) = [c] := by
  obtain ⟨lower, upper⟩ := Char.isDigit_iff_toNat.mp digit
  have zero : '0'.toNat = 48 := rfl
  have nine : '9'.toNat = 57 := rfl
  have small : c.toNat - '0'.toNat < 10 := by omega
  have back : (c.toNat - '0'.toNat).digitChar = c := by
    apply Char.toNat_inj.mp
    rw [Nat.toNat_digitChar_of_lt_ten small]
    omega
  exact ⟨small, by rw [decimal, Nat.toDigits_of_lt_base small, back]⟩

/-- Digits are the numeral of their number with zeros in front. -/
theorem eq_zeros_append_decimal
    {digits : List Char}
    (nonempty : digits ≠ [])
    (allDigits : ∀ c ∈ digits, c.isDigit = true) :
    ∃ zeros,
      digits =
        List.replicate zeros '0' ++ decimal (Nat.ofDigitChars 10 digits 0) := by
  induction digits using List.reverseRecOn with
  | nil => exact absurd rfl nonempty
  | append_singleton front c hypothesis =>
      obtain ⟨small, isNumeral⟩ := decimal_of_isDigit (allDigits c (by simp))
      rw [Nat.ofDigitChars_append, Nat.ofDigitChars_cons, Nat.ofDigitChars_nil]
      by_cases empty : front = []
      · subst empty
        rw [Nat.ofDigitChars_nil, Nat.mul_zero, Nat.zero_add, isNumeral]
        exact ⟨0, rfl⟩
      · obtain ⟨zeros, isFront⟩ :=
          hypothesis empty fun d present => allDigits d (by simp [present])
        generalize Nat.ofDigitChars 10 front 0 = value at isFront
        rcases Nat.eq_zero_or_pos value with rfl | positive
        · refine ⟨zeros + 1, ?_⟩
          rw [isFront, Nat.mul_zero, Nat.zero_add, isNumeral,
            List.replicate_succ']
          rfl
        · refine ⟨zeros, ?_⟩
          have longer : decimal value ++ decimal (c.toNat - '0'.toNat) =
              decimal (10 * value + (c.toNat - '0'.toNat)) :=
            Nat.toDigits_append_toDigits (by decide) positive small
          rw [isNumeral] at longer
          rw [← longer, ← List.append_assoc, ← isFront]

/-- Only digits are read, and as their number. -/
theorem eq_of_readDigits_ok
    {digits : List Char}
    {value number : Nat}
    (isRead : readDigits value digits = .ok number) :
    (∀ c ∈ digits, c.isDigit = true) ∧
      Nat.ofDigitChars 10 digits value = number := by
  induction digits generalizing value with
  | nil => exact ⟨by simp, Except.ok.inj isRead⟩
  | cons c rest hypothesis =>
      simp only [readDigits] at isRead
      split at isRead
      · rename_i digit
        split at isRead
        · obtain ⟨allDigits, same⟩ := hypothesis isRead
          rw [Nat.ofDigitChars_cons, Nat.mul_comm 10 value]
          exact ⟨List.forall_mem_cons.mpr ⟨digit, allDigits⟩, same⟩
        · cases isRead
      · cases isRead

/-- A numeral is read if it is digits behind a plus sign or none. -/
theorem readDecimal_ok
    {text : List Char}
    {value : Nat}
    (isRead : readDecimal text = .ok value) :
    ∃ (plus : Bool) (digits : List Char),
      text = (if plus then ['+'] else []) ++ digits ∧ digits ≠ [] ∧
        readDigits 0 digits = .ok value := by
  unfold readDecimal at isRead
  split at isRead
  · cases isRead
  · cases isRead
  · rename_i digits notAlone
    exact ⟨true, digits, rfl, notAlone, isRead⟩
  · rename_i notEmpty _ _
    exact ⟨false, text, rfl, notEmpty, isRead⟩

/-- The numeral of a word is read with any padding. -/
theorem decimal?_padded
    {value : Nat}
    (word : value ≤ Word.max)
    (padding : Padding) :
    decimal? (padding.chars ++ decimal value) = some value := by
  have digits : ∀ c ∈ List.replicate padding.zeros '0' ++ decimal value,
      c.isDigit = true := by
    intro c present
    rcases List.mem_append.mp present with isZero | inNumeral
    · obtain rfl := List.eq_of_mem_replicate isZero
      rfl
    · exact isDigit_of_mem_decimal inNumeral
  have number :
      Nat.ofDigitChars 10 (List.replicate padding.zeros '0' ++ decimal value)
        0 =
      value := by
    rw [Nat.ofDigitChars_append, Nat.ofDigitChars_replicate_zero, Nat.mul_zero]
    exact Nat.ofDigitChars_ten_toDigits
  have isRead := readDigits_eq_ofDigitChars digits (by rwa [number])
  rw [number] at isRead
  have nonempty : List.replicate padding.zeros '0' ++ decimal value ≠ [] := by
    simp
  have unsigned : '+' ∉ List.replicate padding.zeros '0' ++ decimal value :=
    fun present => by
    cases digits '+' present
  rw [decimal?, Padding.chars, List.append_assoc]
  cases padding.plus with
  | false =>
      rw [if_neg (by decide), List.nil_append,
        readDecimal_of_digits nonempty unsigned, isRead]
      rfl
  | true =>
      have signed :
          readDecimal
            ('+' :: (List.replicate padding.zeros '0' ++ decimal value)) =
          readDigits 0 (List.replicate padding.zeros '0' ++ decimal value) := by
        rw [readDecimal]
        exact nonempty
      rw [if_pos rfl, List.singleton_append, signed, isRead]
      rfl

/-- The numerals of a word are its shortest one with any padding. -/
theorem decimal?_eq_some_iff {text : List Char} {value : Nat} :
    decimal? text = some value ↔
      value ≤ Word.max ∧
      ∃ padding : Padding, text = padding.chars ++ decimal value := by
  constructor
  · intro isNumeral
    have isRead : readDecimal text = .ok value := by
      rw [decimal?] at isNumeral
      cases answer : readDecimal text with
      | error error => simp [answer, Except.toOption] at isNumeral
      | ok number => simpa [answer, Except.toOption] using isNumeral
    obtain ⟨plus, digits, rfl, nonempty, digitsRead⟩ := readDecimal_ok isRead
    obtain ⟨allDigits, number⟩ := eq_of_readDigits_ok digitsRead
    obtain ⟨zeros, padded⟩ := eq_zeros_append_decimal nonempty allDigits
    rw [number] at padded
    refine ⟨readDecimal_le isRead, ⟨plus, zeros⟩, ?_⟩
    rw [Padding.chars, List.append_assoc, ← padded]
  · rintro ⟨word, padding, rfl⟩
    exact decimal?_padded word padding

/-- A numeral that is read has no underscore. -/
theorem underscore_not_mem_of_decimal?
    {text : List Char}
    {value : Nat}
    (isNumeral : decimal? text = some value) :
    ∀ c ∈ text, (c == '_') = false := by
  obtain ⟨-, padding, rfl⟩ := decimal?_eq_some_iff.mp isNumeral
  intro c present
  rcases List.mem_append.mp present with inPadding | inNumeral
  · rcases List.mem_append.mp inPadding with isSign | isZero
    · split at isSign
      · obtain rfl := List.mem_singleton.mp isSign
        rfl
      · cases isSign
    · obtain rfl := List.eq_of_mem_replicate isZero
      rfl
  · refine beq_false_of_ne ?_
    rintro rfl
    exact not_mem_decimal (by decide) inNumeral

end Text
end NameService
