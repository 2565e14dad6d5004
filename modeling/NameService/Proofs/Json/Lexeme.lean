import NameService.Json.Read
import NameService.Json.Write
import NameService.Proofs.Text.Decimal

/-!
# Strings and numbers read back

A string that is written is read as the text it holds, and the number of a word
as the word, in front of whatever may follow a value in compact JSON.
-/

namespace NameService
namespace Json

/-! ## What follows a value -/

/-- What may stand behind a value: nothing, a comma, or the end of a
container. -/
def Delimited : Symbols → Prop
  | [] => True
  | some c :: _ => c = ',' ∨ c = ']' ∨ c = '\x7d'
  | none :: _ => False

@[simp] theorem delimited_nil : Delimited [] := trivial

@[simp] theorem delimited_comma (rest : Symbols) :
    Delimited (some ',' :: rest) := .inl rfl

@[simp] theorem delimited_bracket (rest : Symbols) :
    Delimited (some ']' :: rest) :=
  .inr (.inl rfl)

@[simp] theorem delimited_brace (rest : Symbols) :
    Delimited (some '\x7d' :: rest) :=
  .inr (.inr rfl)

@[simp] theorem skipSpace_nil : skipSpace [] = [] := rfl

/-- A character that is not blank is not skipped. -/
theorem skipSpace_cons_of_not_space
    {c : Char}
    (solid : isSpace c = false)
    (rest : Symbols) :
    skipSpace (some c :: rest) = some c :: rest := by
  simp [skipSpace, solid]

/-! ## Strings -/

/-- The six characters that stand for a control are read as the control. -/
theorem codeUnit?_control : ∀ value < 0x20,
    codeUnit? (some '0') (some '0') (some (hexDigit (value / 16)))
        (some (hexDigit (value % 16))) = some value ∧
      isHighSurrogate value = false ∧ isLowSurrogate value = false := by
  decide

/-- A character is read from the form that it has inside a string. -/
theorem readString_stringChar (c : Char) (rest : Symbols) :
    readString ((stringChar c).map some ++ rest) =
      consChar c (readString rest) := by
  unfold stringChar
  split
  next quote => subst quote; simp [readString, shortEscape?]
  split
  next backslash => subst backslash; simp [readString, shortEscape?]
  split
  next backspace => subst backspace; simp [readString, shortEscape?]
  split
  next tab => subst tab; simp [readString, shortEscape?]
  split
  next newline => subst newline; simp [readString, shortEscape?]
  split
  next formFeed => subst formFeed; simp [readString, shortEscape?]
  split
  next carriageReturn => subst carriageReturn; simp [readString, shortEscape?]
  split
  next control =>
    obtain ⟨unit, notHigh, notLow⟩ := codeUnit?_control c.toNat control
    simp [readString, unit, notHigh, notLow, Char.ofNat_toNat]
  next notQuote notBackslash _ _ _ _ _ notControl =>
    rw [List.map_singleton, List.singleton_append, readString.eq_def]
    simp [notQuote, notBackslash, notControl]

/-- A string is read up to its closing quote. -/
theorem readString_stringBody (text : List Char) (rest : Symbols) :
    readString ((stringBody text).map some ++ rest) = .ok (text, rest) := by
  induction text with
  | nil =>
      rw [stringBody_nil, List.map_singleton, List.singleton_append,
        readString.eq_def]
      rfl
  | cons c text hypothesis =>
      rw [stringBody_cons, List.map_append, List.append_assoc,
        readString_stringChar, hypothesis]
      rfl

/-! ## Numbers -/

/-- The number of a digit. -/
def digitValue (c : Char) : Nat := c.toNat - '0'.toNat

/-- A delimiter is not taken for a digit. -/
theorem takeDigits_of_delimited {rest : Symbols} (ends : Delimited rest) :
    takeDigits rest = ([], rest) := by
  match rest, ends with
  | [], _ => rfl
  | some c :: rest, ends =>
      have notDigit : c.isDigit = false := by
        rcases ends with rfl | rfl | rfl <;> rfl
      simp [takeDigits, notDigit]

/-- Digits are taken up to the first character that is none. -/
theorem takeDigits_append
    {digits : List Char}
    (allDigits : ∀ c ∈ digits, c.isDigit = true)
    {rest : Symbols}
    (ends : Delimited rest) :
    takeDigits (digits.map some ++ rest) = (digits.map digitValue, rest) := by
  induction digits with
  | nil => simpa using takeDigits_of_delimited ends
  | cons c digits hypothesis =>
      have behind :=
        hypothesis fun d present => allDigits d (List.mem_cons_of_mem _ present)
      simp [takeDigits, allDigits c List.mem_cons_self, behind, digitValue]

/-- The number of a list of digits, by their characters. -/
theorem valueOfDigits_map (digits : List Char) :
    Numeral.valueOfDigits (digits.map digitValue) =
      Nat.ofDigitChars 10 digits 0 := by
  simp only [Numeral.valueOfDigits, List.foldl_map, Nat.ofDigitChars_eq_foldl,
    digitValue, Nat.mul_comm 10]

/-- A number with few digits is small. -/
theorem ofDigitChars_lt
    {digits : List Char}
    (allDigits : ∀ c ∈ digits, c.isDigit = true)
    (value : Nat) :
    Nat.ofDigitChars 10 digits value <
      (value + 1) * Nat.pow 10 digits.length := by
  induction digits generalizing value with
  | nil => simp
  | cons c digits hypothesis =>
      have small : c.toNat - '0'.toNat ≤ 9 := by
        have bounds := allDigits c List.mem_cons_self
        simp only [Char.isDigit, Bool.and_eq_true, decide_eq_true_eq] at bounds
        have upper : c.toNat ≤ 57 := bounds.2
        have zero : '0'.toNat = 48 := rfl
        omega
      have behind :=
        hypothesis
          (fun d present => allDigits d (List.mem_cons_of_mem _ present))
          (10 * value + (c.toNat - '0'.toNat))
      rw [Nat.ofDigitChars_cons]
      calc Nat.ofDigitChars 10 digits (10 * value + (c.toNat - '0'.toNat))
          < (10 * value + (c.toNat - '0'.toNat) + 1) *
          Nat.pow 10 digits.length := behind
        _ ≤ ((value + 1) * 10) * Nat.pow 10 digits.length :=
            Nat.mul_le_mul_right _ (by omega)
        _ = (value + 1) * Nat.pow 10 (c :: digits).length := by
            rw [List.length_cons, Nat.pow_eq, Nat.pow_eq, Nat.pow_succ,
              Nat.mul_assoc, Nat.mul_comm 10]

/-- A numeral of several digits does not start with a zero. -/
theorem decimal_ne_zero_cons (value : Nat) (c : Char) (rest : List Char) :
    Text.decimal value ≠ '0' :: c :: rest := by
  intro starts
  have digits : ∀ d ∈ c :: rest, d.isDigit = true := by
    intro d present
    have inDecimal : d ∈ Text.decimal value := by
      rw [starts]
      exact .tail _ present
    exact Text.isDigit_of_mem_decimal inDecimal
  have number : Nat.ofDigitChars 10 (c :: rest) 0 = value := by
    have whole : Nat.ofDigitChars 10 (Text.decimal value) 0 = value :=
      Nat.ofDigitChars_ten_toDigits
    rw [starts, Nat.ofDigitChars_cons] at whole
    simpa using whole
  have small : value < 10 ^ (c :: rest).length := by
    simpa [number] using ofDigitChars_lt digits 0
  have short : (Text.decimal value).length ≤ (c :: rest).length :=
    (Nat.length_toDigits_le_iff (by decide) (by simp)).mpr small
  rw [starts, List.length_cons] at short
  exact Nat.not_succ_le_self _ short

/-- The numeral of a word is a whole part. -/
theorem takeWhole_decimal
    (value : Nat)
    {rest : Symbols}
    (ends : Delimited rest) :
    takeWhole ((Text.decimal value).map some ++ rest) =
      .ok ((Text.decimal value).map digitValue, rest) := by
  have allDigits : ∀ c ∈ Text.decimal value, c.isDigit = true :=
    fun _ => Text.isDigit_of_mem_decimal
  have taken := takeDigits_append allDigits ends
  rw [takeWhole, taken]
  split
  · rename_i none_taken
    simp at none_taken
  · rename_i leading_zero
    exfalso
    obtain ⟨same, -⟩ := Prod.mk.inj leading_zero
    match digits : Text.decimal value with
    | [] => exact Text.decimal_ne_nil value digits
    | [c] => simp [digits] at same
    | first :: second :: others =>
        have present : first ∈ Text.decimal value := by simp [digits]
        have isDigit := Text.isDigit_of_mem_decimal present
        have isZero : digitValue first = 0 := by
          simpa [digits] using (List.cons.inj (digits ▸ same)).1
        refine decimal_ne_zero_cons value second others ?_
        rw [digits, show first = '0' from ?_]
        simp only [Char.isDigit, Bool.and_eq_true, decide_eq_true_eq] at isDigit
        have lower : 48 ≤ first.toNat := isDigit.1
        have zero : '0'.toNat = 48 := rfl
        refine Char.toNat_inj.mp ?_
        simp only [digitValue] at isZero
        omega
  · rfl

/-- Digits of a word scale nothing. -/
theorem scaleWhole_of_word
    (digits : List Nat)
    (value : Nat)
    (word : digits.foldl (fun value digit => value * 10 + digit) value ≤
      Word.max) :
    Numeral.scaleWhole value digits =
      ⟨digits.foldl (fun value digit => value * 10 + digit) value, 0⟩ := by
  have grows : ∀ (digits : List Nat) (value : Nat),
      value ≤ digits.foldl (fun value digit => value * 10 + digit) value := by
    intro digits
    induction digits with
    | nil => simp
    | cons digit digits hypothesis =>
        intro value
        exact Nat.le_trans (by omega) (hypothesis (value * 10 + digit))
  induction digits generalizing value with
  | nil => rfl
  | cons digit digits hypothesis =>
      rw [List.foldl_cons] at word ⊢
      rw [Numeral.scaleWhole, if_pos (Nat.le_trans (grows _ _) word)]
      exact hypothesis _ word

/-- Rounding at most doubles a number. -/
theorem roundToDouble_le (value : Nat) :
    Numeral.roundToDouble value ≤ 2 * value := by
  unfold Numeral.roundToDouble
  split
  · omega
  · rename_i large
    have positive : value ≠ 0 := by
      rintro rfl
      exact large (by decide)
    have unit_le : Nat.pow 2 (value.log2 - 52) ≤ value :=
      Nat.le_trans (Nat.pow_le_pow_right (by decide) (Nat.sub_le _ _))
        (Nat.log2_self_le positive)
    have quotient_le := Nat.div_mul_le_self value (Nat.pow 2 (value.log2 - 52))
    simp only
    split
    · omega
    · rw [Nat.add_mul]
      omega

/-- A small power of two is below the difference of two large ones. -/
theorem le_pow_two_sub
    {low middle high : Nat}
    (below : low ≤ middle)
    (above : middle < high) :
    Nat.pow 2 low ≤ Nat.pow 2 high - Nat.pow 2 middle := by
  have first : Nat.pow 2 low ≤ Nat.pow 2 middle :=
    Nat.pow_le_pow_right (by decide) below
  have second : Nat.pow 2 (middle + 1) ≤ Nat.pow 2 high :=
    Nat.pow_le_pow_right (by decide) above
  have double : Nat.pow 2 (middle + 1) = Nat.pow 2 middle * 2 :=
    Nat.pow_succ 2 middle
  omega

/-- A numeral whose digits name a word is in range. -/
theorem isOutOfRange_of_word
    {digits : List Nat}
    (word : Numeral.valueOfDigits digits ≤ Word.max) :
    Numeral.isOutOfRange ⟨false, digits, none, none⟩ = false := by
  have scaled : Numeral.scaled ⟨false, digits, none, none⟩ =
      ⟨Numeral.valueOfDigits digits, 0⟩ := by
    simp only [Numeral.scaled, scaleWhole_of_word digits 0 word]
    rfl
  have small : Numeral.roundToDouble (Numeral.valueOfDigits digits) ≤
      2 * Word.max :=
    Nat.le_trans (roundToDouble_le _) (Nat.mul_le_mul_left 2 word)
  have one : Numeral.roundToDouble (Nat.pow 10 (Int.toNat 0)) = 1 := by decide
  have large : 2 * Word.max < Nat.pow 2 65 := by decide
  have larger :=
    le_pow_two_sub (show 65 ≤ 970 by decide) (show 970 < 1024 by decide)
  rw [Numeral.isOutOfRange, scaled]
  simp only [one]
  generalize Nat.pow 2 1024 - Nat.pow 2 970 = limit at larger ⊢
  split
  · rfl
  · rw [if_neg (by decide), decide_eq_false_iff_not, Nat.mul_one]
    exact Nat.not_le.mpr
      (Nat.lt_of_lt_of_le (Nat.lt_of_le_of_lt small large) larger)

/-- Nothing of a numeral stands behind the whole part if a delimiter does. -/
theorem takeNumeral_of_whole
    {digits : List Char}
    (nonnegative : '-' ∉ digits)
    {whole : List Nat}
    {rest : Symbols}
    (taken : takeWhole (digits.map some ++ rest) = .ok (whole, rest))
    (ends : Delimited rest) :
    takeNumeral (digits.map some ++ rest) =
      .ok (⟨false, whole, none, none⟩, rest) := by
  have noFraction : takeFraction rest = .ok (none, rest) := by
    match rest, ends with
    | [], _ => rfl
    | some c :: rest, ends => rcases ends with rfl | rfl | rfl <;> rfl
  have noExponent : takeExponent rest = .ok (none, rest) := by
    match rest, ends with
    | [], _ => rfl
    | some c :: rest, ends => rcases ends with rfl | rfl | rfl <;> rfl
  have unsigned : ∀ behind, digits.map some ++ rest ≠ some '-' :: behind := by
    intro behind starts
    cases digits with
    | nil =>
        rw [List.map_nil, List.nil_append] at starts
        subst starts
        rcases ends with same | same | same <;> cases same
    | cons c digits =>
        rw [List.map_cons, List.cons_append] at starts
        have same : c = '-' := by injection starts with same _; injection same
        exact nonnegative (same ▸ List.mem_cons_self)
  unfold takeNumeral
  split
  rename_i negative text parsed
  split at parsed
  · rename_i behind starts
    exact absurd starts (unsigned behind)
  · obtain ⟨rfl, rfl⟩ := Prod.mk.inj parsed
    simp [bind, Except.bind, pure, Except.pure, taken, noFraction, noExponent]

/-- The number of a word is read as the word. -/
theorem readNumeral_number
    {value : Nat}
    (word : value ≤ Word.max)
    {rest : Symbols}
    (ends : Delimited rest) :
    ∃ numeral,
      readNumeral ((number value).map some ++ rest) = .ok (numeral, rest) ∧
      numeral.word? = some value := by
  have whole : Numeral.valueOfDigits ((Text.decimal value).map digitValue) =
      value := by
    rw [valueOfDigits_map]
    exact Nat.ofDigitChars_ten_toDigits
  have taken := takeNumeral_of_whole (Text.not_mem_decimal (by decide))
    (takeWhole_decimal value ends) ends
  refine ⟨⟨false, (Text.decimal value).map digitValue, none, none⟩, ?_, ?_⟩
  · have inRange := isOutOfRange_of_word (by rwa [whole])
    rw [readNumeral, number, taken]
    simp [bind, Except.bind, inRange, pure, Except.pure]
  · simp [Numeral.word?, whole, word]

end Json
end NameService
