import NameService.Word

/-!
# Words as bytes

The eight bytes of a word tell the word, in either order.
-/

namespace NameService
namespace Word

/-- The big-endian bytes of a word tell the word. -/
theorem ofBigEndian_bigEndian {value : Nat} (word : value ≤ max) :
    ofBigEndian (bigEndian value) = value := by
  have bound : value < 18446744073709551616 := Nat.lt_succ_of_le word
  have bytes : bigEndian value =
      [UInt8.ofNat (value / 72057594037927936),
        UInt8.ofNat (value / 281474976710656),
        UInt8.ofNat (value / 1099511627776), UInt8.ofNat (value / 4294967296),
        UInt8.ofNat (value / 16777216), UInt8.ofNat (value / 65536),
        UInt8.ofNat (value / 256), UInt8.ofNat (value / 1)] := rfl
  rw [bytes]
  simp only [ofBigEndian, List.foldl_cons, List.foldl_nil, UInt8.toNat_ofNat']
  omega

/-- Different words have different little-endian bytes. -/
theorem littleEndian_injective
    {left right : Nat}
    (leftWord : left ≤ max)
    (rightWord : right ≤ max)
    (same : littleEndian left = littleEndian right) :
    left = right := by
  rw [← ofBigEndian_bigEndian leftWord, ← ofBigEndian_bigEndian rightWord,
    bigEndian, bigEndian, same]

end Word
end NameService
