import NameService.Text.Utf8

/-!
# Decoding what was encoded

The bytes of a text decode to the text. A character is decoded byte by byte: the
first byte tells how many are missing, each further one carries six bits.
-/

namespace NameService
namespace Text

/-! ## Single bytes -/

theorem toNat_ofNat_of_lt {value : Nat} (byte : value < 256) :
    (UInt8.ofNat value).toNat = value := by
  rw [UInt8.toNat_ofNat']
  exact Nat.mod_eq_of_lt byte

/-- A byte lies between two others when its number does. -/
theorem between_ofNat_iff
    {low high : UInt8}
    {value : Nat}
    (byte : value < 256) :
    (low ≤ UInt8.ofNat value ∧ UInt8.ofNat value ≤ high) ↔
      low.toNat ≤ value ∧ value ≤ high.toNat := by
  rw [UInt8.le_iff_toNat_le, UInt8.le_iff_toNat_le, toNat_ofNat_of_lt byte]

/-- The first byte of a sequence, by its number. -/
theorem start?_ofNat (value : Nat) (byte : value < 256) :
    Partial.start? (UInt8.ofNat value) =
      if 0xC2 ≤ value ∧ value ≤ 0xDF then some ⟨1, value - 0xC0, 0x80⟩
      else if 0xE0 ≤ value ∧ value ≤ 0xEF then some ⟨2, value - 0xE0, 0x800⟩
      else if 0xF0 ≤ value ∧ value ≤ 0xF4 then some ⟨3, value - 0xF0, 0x10000⟩
      else none := by
  simp only [Partial.start?, between_ofNat_iff byte, toNat_ofNat_of_lt byte]
  rfl

/-- A byte that stands for itself. -/
theorem decodeFrom_ascii
    {value : Nat}
    (ascii : value < 0x80)
    (rest : List UInt8) :
    decodeFrom none (UInt8.ofNat value :: rest) =
      some (Char.ofNat value) :: decodeFrom none rest := by
  have byteValue : (UInt8.ofNat value).toNat = value :=
    toNat_ofNat_of_lt (by omega)
  have small : UInt8.ofNat value < 0x80 := by
    rw [UInt8.lt_iff_toNat_lt, byteValue]
    exact ascii
  rw [decodeFrom, decodeHead, if_pos small, byteValue]

/-- A byte that opens a sequence. -/
theorem decodeFrom_start
    {value : Nat}
    {state : Partial}
    (large : 0x80 ≤ value)
    (byte : value < 256)
    (starts : Partial.start? (UInt8.ofNat value) = some state)
    (rest : List UInt8) :
    decodeFrom none (UInt8.ofNat value :: rest) =
      decodeFrom (some state) rest := by
  have notAscii : ¬ UInt8.ofNat value < 0x80 := by
    rw [UInt8.lt_iff_toNat_lt, toNat_ofNat_of_lt byte]
    exact Nat.not_lt.mpr large
  rw [decodeFrom, decodeHead, if_neg notAscii, starts]

/-- A byte that continues a sequence lies in the range of such bytes. -/
theorem continues_ofNat {bits : Nat} (small : bits < 64) :
    0x80 ≤ UInt8.ofNat (bits + 0x80) ∧ UInt8.ofNat (bits + 0x80) ≤ 0xBF := by
  rw [between_ofNat_iff (by omega)]
  exact ⟨Nat.le_add_left _ _, show bits + 0x80 ≤ 0xBF by omega⟩

/-- A byte that continues a sequence and is not its last one brings six bits. -/
theorem decodeFrom_continuation
    {missing value least bits : Nat}
    (several : missing ≠ 0)
    (small : bits < 64)
    (rest : List UInt8) :
    decodeFrom (some ⟨missing + 1, value, least⟩)
      (UInt8.ofNat (bits + 0x80) :: rest) =
      decodeFrom (some ⟨missing, value * 64 + bits, least⟩) rest := by
  rw [decodeFrom, if_pos (continues_ofNat small), toNat_ofNat_of_lt (by omega)]
  simp [several]

/-- The last byte of a sequence finishes it. -/
theorem decodeFrom_last
    {value least bits : Nat}
    (small : bits < 64)
    (rest : List UInt8) :
    decodeFrom (some ⟨1, value, least⟩) (UInt8.ofNat (bits + 0x80) :: rest) =
      Partial.finish? (value * 64 + bits) least :: decodeFrom none rest := by
  rw [decodeFrom, if_pos (continues_ofNat small), toNat_ofNat_of_lt (by omega)]
  simp

/-- A sequence that is not over-long finishes with its character. -/
theorem finish?_eq_some {c : Char} {value least : Nat} (whole : value = c.toNat)
    (long : least ≤ value) : Partial.finish? value least = some c := by
  subst whole
  rw [Partial.finish?, dif_pos ⟨c.valid, long⟩]
  rfl

/-! ## Texts -/

/-- The bytes of a character, by its code point. -/
theorem utf8EncodeChar_eq (c : Char) :
    String.utf8EncodeChar c =
      if c.toNat ≤ 0x7f then [UInt8.ofNat c.toNat]
      else if c.toNat ≤ 0x7ff then
        [UInt8.ofNat (c.toNat / 64 % 0x20 + 0xc0),
          UInt8.ofNat (c.toNat % 0x40 + 0x80)]
      else if c.toNat ≤ 0xffff then
        [UInt8.ofNat (c.toNat / 4096 % 0x10 + 0xe0),
          UInt8.ofNat (c.toNat / 64 % 0x40 + 0x80),
          UInt8.ofNat (c.toNat % 0x40 + 0x80)]
      else
        [UInt8.ofNat (c.toNat / 262144 % 0x08 + 0xf0),
          UInt8.ofNat (c.toNat / 4096 % 0x40 + 0x80),
          UInt8.ofNat (c.toNat / 64 % 0x40 + 0x80),
          UInt8.ofNat (c.toNat % 0x40 + 0x80)] := rfl

/-- The bytes of a character decode to it. -/
theorem decodeFrom_utf8EncodeChar (c : Char) (rest : List UInt8) :
    decodeFrom none (String.utf8EncodeChar c ++ rest) =
      some c :: decodeFrom none rest := by
  have bound : c.toNat < 0x110000 := by
    rcases c.valid with below | ⟨_, below⟩
    · exact Nat.lt_trans below (by decide)
    · exact below
  rw [utf8EncodeChar_eq]
  split
  · rename_i one
    rw [List.singleton_append, decodeFrom_ascii (Nat.lt_succ_of_le one),
      Char.ofNat_toNat]
  · split
    · rename_i two
      have opens := start?_ofNat (c.toNat / 64 % 0x20 + 0xc0) (by omega)
      rw [if_pos (by omega)] at opens
      simp only [List.cons_append, List.nil_append]
      rw [decodeFrom_start (by omega) (by omega) opens,
        decodeFrom_last (Nat.mod_lt _ (by decide)),
        finish?_eq_some (c := c) (by omega) (by omega)]
    · split
      · rename_i three
        have opens := start?_ofNat (c.toNat / 4096 % 0x10 + 0xe0) (by omega)
        rw [if_neg (by omega), if_pos (by omega)] at opens
        simp only [List.cons_append, List.nil_append]
        rw [decodeFrom_start (by omega) (by omega) opens,
          decodeFrom_continuation Nat.one_ne_zero (Nat.mod_lt _ (by decide)),
          decodeFrom_last (Nat.mod_lt _ (by decide)),
          finish?_eq_some (c := c) (by omega) (by omega)]
      · have opens := start?_ofNat (c.toNat / 262144 % 0x08 + 0xf0) (by omega)
        rw [if_neg (by omega), if_neg (by omega), if_pos (by omega)] at opens
        simp only [List.cons_append, List.nil_append]
        rw [decodeFrom_start (by omega) (by omega) opens,
          decodeFrom_continuation (Nat.succ_ne_zero 1)
            (Nat.mod_lt _ (by decide)),
          decodeFrom_continuation Nat.one_ne_zero (Nat.mod_lt _ (by decide)),
          decodeFrom_last (Nat.mod_lt _ (by decide)),
          finish?_eq_some (c := c) (by omega) (by omega)]

/-- The bytes of a text decode to its characters. -/
@[simp] theorem decode_utf8 (text : List Char) :
    decode (utf8 text) = text.map some := by
  induction text with
  | nil => rfl
  | cons c text hypothesis =>
      rw [utf8_cons, decode, decodeFrom_utf8EncodeChar, List.map_cons,
        ← hypothesis]
      rfl

/-- The characters of a sequence without undecodable positions. -/
@[simp] theorem characters?_map_some (text : List Char) :
    characters? (text.map some) = some text := by
  induction text with
  | nil => rfl
  | cons c text hypothesis =>
      rw [characters?] at hypothesis ⊢
      simp [hypothesis]

/-- The bytes of a text are UTF-8 and hold the text. -/
@[simp] theorem ofUtf8?_utf8 (text : List Char) :
    ofUtf8? (utf8 text) = some text := by
  rw [ofUtf8?, decode_utf8, characters?_map_some]

/-- A text has no more characters than bytes. -/
theorem length_le_length_utf8 (text : List Char) :
    text.length ≤ (utf8 text).length := by
  induction text with
  | nil => exact Nat.le_refl 0
  | cons c text hypothesis =>
      have some_byte : 0 < (String.utf8EncodeChar c).length :=
        List.length_pos_iff.mpr String.utf8EncodeChar_ne_nil
      rw [utf8_cons, List.length_cons, List.length_append]
      omega

/-- Bytes are read as no more positions than there are bytes, an unfinished
sequence counted as one. -/
theorem length_decodeFrom_le (state : Option Partial) (bytes : List UInt8) :
    (decodeFrom state bytes).length ≤ bytes.length + if state.isSome then 1 else
      0 := by
  fun_induction decodeFrom state bytes
  all_goals simp_all
  all_goals omega

/-- Bytes are read as no more positions than there are bytes. -/
theorem length_decode_le (bytes : List UInt8) :
    (decode bytes).length ≤ bytes.length :=
  length_decodeFrom_le none bytes

end Text
end NameService
