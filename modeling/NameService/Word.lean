/-!
# Words

Transaction ids, byte counts and times are natural numbers below `2 ^ 64`.
They are kept as `Nat`; the bound is checked where a number is read, met by
saturation where byte counts are added, and by wrapping around where
transaction ids are counted on.
-/

namespace NameService
namespace Word

/-- The largest word. -/
def max : Nat := 18446744073709551615

theorem max_eq : max = Nat.pow 2 64 - 1 := rfl

/-- The word behind a word. Behind the largest one the words start again. -/
def next (word : Nat) : Nat := if word = max then 0 else word + 1

@[simp] theorem next_max : next max = 0 := rfl

theorem next_of_lt {word : Nat} (below : word < max) : next word = word + 1 :=
  if_neg (Nat.ne_of_lt below)

theorem next_le_succ (word : Nat) : next word ≤ word + 1 := by
  unfold next
  split <;> omega

/-- Addition that stops at the largest word. -/
def saturatingAdd (left right : Nat) : Nat := min (left + right) max

theorem saturatingAdd_le (left right : Nat) : saturatingAdd left right ≤ max :=
  Nat.min_le_right _ _

/-- The bytes of a word in little-endian order. -/
def littleEndian (value : Nat) : List UInt8 :=
  (List.range 8).map fun place => UInt8.ofNat (value / Nat.pow 256 place)

@[simp] theorem length_littleEndian (value : Nat) :
    (littleEndian value).length = 8 := by
  simp [littleEndian]

/-- The number whose big-endian digits in base 256 are the given bytes. -/
def ofBigEndian (bytes : List UInt8) : Nat :=
  bytes.foldl (fun value byte => value * 256 + byte.toNat) 0

/-- The bytes of a word in big-endian order. -/
def bigEndian (value : Nat) : List UInt8 := (littleEndian value).reverse

end Word
end NameService
