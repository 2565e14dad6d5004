import NameService.Text.Columns.Emoji
import NameService.Text.Columns.Wide
import NameService.Text.Columns.Zero

/-!
# Columns

How many columns a line of text takes up where all characters stand in a grid. A
character takes up none, one or two by itself, and less where it is drawn as one
sign with the characters behind it: emoji and their selectors, skin tones,
joiners and tags, pairs of regional indicators, and the ligatures of several
scripts.

The line is read from its end, since what a character is drawn with stands
behind it. `columns_eq_length` says that text without a character beyond U+00A0
has a column for each character.
-/

namespace NameService
namespace Text

/-- A sign behind a character that selects how the character is shown. -/
inductive Selector
  | emoji
  | text
  | fullwidth
  deriving DecidableEq, Repr

/-- The last letter of a ligature, or what is left of it once a part is read. -/
inductive LigatureEnd
  | lamed
  | bugineseYa
  | bugineseVowel
  | tifinaghConsonant
  | tifinaghJoiner
  | lisuTone
  | turkicI
  | khmerSubscript
  deriving DecidableEq, Repr

/-- What the text behind a character begins with, as far as it matters to the
character. -/
inductive Onset
  /-- Nothing that the character could be drawn with. -/
  | plain
  | emoji
  | skinTone
  /-- A single regional indicator. -/
  | indicator
  /-- At least two regional indicators. -/
  | indicators
  /-- An emoji behind a joiner. -/
  | joined
  /-- An emoji behind a joiner and the sign of a key. -/
  | joinedKey
  /-- A regional indicator behind which a joiner and an emoji stand. -/
  | joinedIndicator
  /-- An even number of such indicators. -/
  | joinedEven
  /-- An odd number of such indicators, three at least. -/
  | joinedOdd
  /-- The end of a flag's tag with some letters before it. -/
  | tagLetters (count : Nat)
  /-- The end of a flag's tag with some digits before all letters. -/
  | tagDigits (count : Nat)
  | kiratE
  | kiratAi
  | alef
  /-- The end of a ligature, behind a joiner or not. -/
  | ligature (letter : LigatureEnd) (joiner : Bool)
  deriving DecidableEq, Repr

/-- Whether an onset stands in a script that draws letters together. -/
def Onset.isScript : Onset → Bool
  | .alef | .ligature _ _ => true
  | _ => false

/-- Whether an onset is an emoji behind a joiner. -/
def Onset.isJoined : Onset → Bool
  | .joined | .joinedKey => true
  | _ => false

/-- The text behind a character: its onset, and the selectors in front of the
onset. -/
structure Following where
  onset : Onset := .plain
  selectors : List Selector := []
  deriving DecidableEq, Repr

/--
The text as it is for a character that its selectors do not concern. A script's
letters are drawn together across selectors, and nothing else is.
-/
def Following.unselected (following : Following) : Following :=
  if following.selectors.isEmpty || following.onset.isScript then
    ⟨following.onset, []⟩ else {}

/-- The text as it is for a character that makes no use of an emoji selector. -/
def Following.withoutEmoji (following : Following) : Following :=
  if !following.selectors.contains .emoji then following
  else if following.onset.isScript then
    ⟨following.onset, following.selectors.filter (· != .emoji)⟩
  else {}

/--
Put a selector in front of the text. Selectors gather in front of a script's
letter, and an emoji behind a joiner is kept for the character that an emoji
selector concerns. In front of anything else only the first selector counts.
-/
def Following.select (following : Following) (selector : Selector) :
    Following :=
  if following.onset.isScript then
    ⟨following.onset, selector :: following.selectors⟩
  else if selector == .emoji && following.onset.isJoined then
    ⟨following.onset, [selector]⟩
  else ⟨.plain, [selector]⟩

/-- The joiner, which draws what stands before and behind it as one sign. -/
def joiner : Char := '\u200D'

/-- The selector that a character is. -/
def selectorOf? (c : Char) : Option Selector :=
  if c = '\uFE0F' then some .emoji
  else if c = '\uFE0E' then some .text
  else if c = '\uFE01' then some .fullwidth
  else none

/-- Whether a character is a quotation mark that has a full width form. -/
def isQuotationMark (c : Char) : Bool :=
  inRanges [(0x2018, 0x2019), (0x201C, 0x201D)] c

/-- Whether a character is a form of the Arabic letter lam. -/
def isLam (c : Char) : Bool :=
  inRanges
    [(0x644, 0x644), (0x6B5, 0x6B8), (0x76A, 0x76A), (0x8A6, 0x8A6),
      (0x8C7, 0x8C7)] c

/-- Whether a character is a form of the Arabic letter alef. -/
def isAlef (c : Char) : Bool :=
  inRanges
    [(0x622, 0x623), (0x625, 0x625), (0x627, 0x627), (0x671, 0x673),
      (0x675, 0x675), (0x773, 0x774), (0x870, 0x882)] c

/-- Whether a Khmer letter has a form below the letter before it. -/
def isKhmerSubscript (c : Char) : Bool :=
  inRanges
    [(0x1780, 0x1782), (0x1784, 0x1787), (0x1789, 0x178C), (0x178E, 0x1793),
      (0x1795, 0x1798), (0x179B, 0x179D), (0x17A0, 0x17A0), (0x17A2, 0x17A2),
      (0x17A7, 0x17A7), (0x17AB, 0x17AC), (0x17AF, 0x17AF)] c

/-- Whether a character is a Tifinagh consonant. -/
def isTifinaghConsonant (c : Char) : Bool :=
  inRanges [(0x2D31, 0x2D65), (0x2D6F, 0x2D6F)] c

/-- Whether a character is a Lisu tone that stands first in a pair. -/
def isFirstLisuTone (c : Char) : Bool := inRanges [(0xA4F8, 0xA4FB)] c

/-- Whether a character is a Lisu tone that stands last in a pair. -/
def isLastLisuTone (c : Char) : Bool := inRanges [(0xA4FC, 0xA4FD)] c

/-- The columns of a character that is drawn with nothing behind it. -/
def ownColumns (c : Char) : Nat :=
  if c.toNat = 0x17A4 then 2
  else if c.toNat = 0x17D8 then 3
  else if isZeroWidth c then 0
  else if isWide c then 2
  else 1

/-- The ligature that a letter ends. -/
def ligatureEnd? (c : Char) : Option LigatureEnd :=
  if c.toNat = 0x5DC then some .lamed
  else if c.toNat = 0x1A10 then some .bugineseYa
  else if isTifinaghConsonant c then some .tifinaghConsonant
  else if isLastLisuTone c then some .lisuTone
  else if c.toNat = 0x10C03 then some .turkicI
  else if isKhmerSubscript c then some .khmerSubscript
  else none

/-- What a character that is drawn with nothing behind it is to the one before
it. -/
def ownOnset (c : Char) : Onset :=
  if isEmoji c then .emoji
  else if isSkinTone c then .skinTone
  else if isRegionalIndicator c then .indicator
  else if isAlef c then .alef
  else if c.toNat = 0x16D67 then .kiratE
  else if c.toNat = 0x16D68 then .kiratAi
  else
    match ligatureEnd? c with
    | some letter => .ligature letter false
    | none => .plain

/-- The columns that a character adds to what it is drawn with, and the new
onset. -/
abbrev Joining := Option (Int × Onset)

/-- A character in front of the end of a ligature, behind whose front a joiner
may stand. -/
def LigatureEnd.join? (letter : LigatureEnd) (behindJoiner : Bool) (c : Char) :
    Joining :=
  match letter, behindJoiner with
  | .lamed, true => if c.toNat = 0x5D0 then some (0, .plain) else none
  | .bugineseYa, true =>
      if c.toNat = 0x1A17 then some (0, .ligature .bugineseVowel true) else none
  | .bugineseVowel, _ => if c.toNat = 0x1A15 then some (0, .plain) else none
  | .tifinaghConsonant, behindJoiner =>
      if c.toNat = 0x2D7F then some (1, .ligature .tifinaghJoiner true)
      else if behindJoiner && isTifinaghConsonant c then some (0, .plain)
      else none
  | .tifinaghJoiner, _ => if isTifinaghConsonant c then some (-1, .plain) else
    none
  | .lisuTone, _ => if isFirstLisuTone c then some (0, .plain) else none
  | .turkicI, true => if c.toNat = 0x10C32 then some (0, .plain) else none
  | .khmerSubscript, _ => if c.toNat = 0x17D2 then some (-1, .plain) else none
  | .lamed, false | .bugineseYa, false | .turkicI, false => none

/-- A character in front of a joiner and an emoji. -/
def joinEmoji? (c : Char) : Joining :=
  if c.toNat = 0x20E3 then some (0, .joinedKey)
  else if isRegionalIndicator c then some (1, .joinedIndicator)
  else if isSkinTone c then some (0, .skinTone)
  else if c.toNat = 0xE007F then some (0, .tagLetters 0)
  else if isEmoji c then some (0, .emoji)
  else none

/--
A character in front of a flag's tag, of which some letters and digits are read.
The tag has up to six letters, or up to four behind up to three digits, and
belongs to a black flag once three letters or three digits are read.
-/
def joinTag? (letters digits : Nat) (c : Char) : Joining :=
  if digits = 0 && letters < 6 && isTagLetter c then
    some (0, .tagLetters (letters + 1))
  else if letters < 5 && digits < 3 && isTagDigit c then
    some (0, .tagDigits (digits + 1))
  else if (letters ≥ 3 || digits = 3) && c.toNat = 0x1F3F4 then some (0, .emoji)
  else none

/-- A character in front of the Kirat Rai vowel sign e. -/
def joinKiratE? (c : Char) : Joining :=
  if c.toNat = 0x16D63 || c.toNat = 0x16D69 then some (0, .plain)
  else if c.toNat = 0x16D67 then some (0, .kiratAi)
  else if c.toNat = 0x16D68 then some (1, .kiratE)
  else none

/-- A character in front of an onset, if they are drawn together. -/
def Onset.join? (onset : Onset) (c : Char) : Joining :=
  match onset with
  | .plain | .joinedKey => none
  | .emoji => if c = joiner then some (0, .joined) else none
  | .skinTone =>
      if takesSkinTone c then some (0, .emoji)
      else if c = joiner then some (0, .joined)
      else none
  | .indicator => if isRegionalIndicator c then some (1, .indicators) else none
  | .indicators =>
      if isRegionalIndicator c then some (1, .indicators)
      else if c = joiner then some (0, .joined)
      else none
  | .joined => joinEmoji? c
  | .joinedIndicator => if isRegionalIndicator c then
    some (-1, .joinedEven) else none
  | .joinedEven =>
      if isRegionalIndicator c then some (3, .joinedOdd)
      else if c = joiner then some (0, .joined)
      else none
  | .joinedOdd =>
      if isRegionalIndicator c then some (-1, .joinedEven)
      else if c = joiner then some (0, .joined)
      else none
  | .tagLetters letters => joinTag? letters 0 c
  | .tagDigits digits => joinTag? 0 digits c
  | .kiratE => joinKiratE? c
  | .kiratAi => if c.toNat = 0x16D63 then some (0, .plain) else none
  | .alef =>
      if isLam c then some (0, .plain)
      else if isTransparent c then some (0, .alef)
      else none
  | .ligature letter behindJoiner =>
      if c = joiner then some (0, .ligature letter true)
      else if isIgnorableMark c then some (0, .ligature letter behindJoiner)
      else letter.join? behindJoiner c

/-- The columns that a character adds to the text behind it, and the text from
it on. -/
def Following.prepend (following : Following) (c : Char) : Int × Following :=
  if following.selectors.contains .emoji && takesEmojiSelector c then
    (if following.onset.isJoined then 0 else 2, ⟨.emoji, []⟩)
  else if c.toNat ≤ 0xA0 then (1, {})
  else
    match selectorOf? c with
    | some selector => (0, following.withoutEmoji.select selector)
    | none =>
        if following.selectors.contains .text && takesTextSelector c then
          (1, {})
        else
          if following.selectors.contains .fullwidth && isQuotationMark c then
            (2, {})
        else
          match following.unselected.onset.join? c with
          | some (columns, onset) => (columns, ⟨onset, []⟩)
          | none => (ownColumns c, ⟨ownOnset c, []⟩)

/-- The columns of a text, and how it begins. -/
def columnsAndOnset : List Char → Int × Following
  | [] => (0, {})
  | c :: rest =>
      let behind := columnsAndOnset rest
      let placed := behind.2.prepend c
      (placed.1 + behind.1, placed.2)

/-- The columns of a text. -/
def columns (text : List Char) : Nat := (columnsAndOnset text).1.toNat

@[simp] theorem columns_nil : columns [] = 0 := rfl

/-- A character up to U+00A0 takes up one column, and nothing is drawn with
it. -/
theorem prepend_of_le {c : Char} (le : c.toNat ≤ 0xA0) :
    Following.prepend {} c = (1, {}) := by
  simp [Following.prepend, le]

theorem columnsAndOnset_eq_length
    {text : List Char}
    (le : ∀ c ∈ text, c.toNat ≤ 0xA0) :
    columnsAndOnset text = ((text.length : Int), {}) := by
  induction text with
  | nil => rfl
  | cons c rest ih =>
      rw [List.forall_mem_cons] at le
      simp only [columnsAndOnset, ih le.2, prepend_of_le le.1, List.length_cons]
      rw [Int.natCast_succ, Int.add_comm]

/-- A text without a character beyond U+00A0 has a column for each character. -/
theorem columns_eq_length {text : List Char} (le : ∀ c ∈ text, c.toNat ≤ 0xA0) :
    columns text = text.length := by
  rw [columns, columnsAndOnset_eq_length le, Int.toNat_natCast]

example : columns ['한', '국', '어'] = 6 ∧ columns ['e', '\u0301'] = 1 := by
  decide +kernel

example : columns ['1', '\uFE0F', '\u20E3'] = 2 ∧ columns ['👍', '🏽'] = 2 ∧
    columns ['🇯', '🇵'] = 2 := by decide +kernel

example : columns ['\u201C', '\uFE01'] = 2 ∧
    columns ['\u201C', '\uFE0E', '\uFE01'] = 1 ∧
    columns ['\u201C', '\uFE0E', '\uFE01', '\u0627'] = 3 := by decide +kernel

example : columns ['\uFF8A', '\uFF9F'] = 2 ∧
    columns ['\u05C7', '\u05C8'] = 0 := by decide +kernel

example : columns ['\u0644', '\u0627'] = 1 ∧
    columns ['\u05D0', joiner, '\u05DC'] = 1 ∧
    columns ['\u17D2', '\u1780'] = 0 := by decide +kernel

end Text
end NameService
