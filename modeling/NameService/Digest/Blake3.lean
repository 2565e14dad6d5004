/-!
# BLAKE3

The 256-bit hash of a byte sequence. The sequence is cut into chunks of 1024
bytes, each hashed block by block, and the chunks are the leaves of a binary
tree whose left subtrees are full.
-/

namespace NameService
namespace Blake3

/-- The eight words that chain one compression to the next. -/
abbrev Chain := Vector UInt32 8

/-- The sixteen words of a block, and of a compression state. -/
abbrev Words := Vector UInt32 16

/-- The initial chain. -/
def initial : Chain :=
  #v[0x6A09E667, 0xBB67AE85, 0x3C6EF372, 0xA54FF53A, 0x510E527F, 0x9B05688C,
    0x1F83D9AB, 0x5BE0CD19]

/-- Marks the first block of a chunk. -/
def chunkStart : UInt32 := 1

/-- Marks the last block of a chunk. -/
def chunkEnd : UInt32 := 2

/-- Marks a block that joins two subtrees. -/
def parent : UInt32 := 4

/-- Marks the compression that gives the hash. -/
def rootFlag : UInt32 := 8

/-- How many bytes a chunk has at most. -/
def chunkSize : Nat := 1024

/-- How many bytes a block has at most. -/
def blockSize : Nat := 64

/-- Rotate a word to the right. -/
def rotateRight (word amount : UInt32) : UInt32 :=
  (word >>> amount) ||| (word <<< (32 - amount))

/-- Mix two words of a block into four words of the state. -/
def mix (state : Words) (a b c d : Fin 16) (x y : UInt32) : Words :=
  let va := state[a] + state[b] + x
  let vd := rotateRight (state[d] ^^^ va) 16
  let vc := state[c] + vd
  let vb := rotateRight (state[b] ^^^ vc) 12
  let va := va + vb + y
  let vd := rotateRight (vd ^^^ va) 8
  let vc := vc + vd
  let vb := rotateRight (vb ^^^ vc) 7
  (((state.set a va).set b vb).set c vc).set d vd

/-- Mix a whole block into the state, columns first and then diagonals. -/
def round (state block : Words) : Words :=
  let state := mix state 0 4 8 12 block[0] block[1]
  let state := mix state 1 5 9 13 block[2] block[3]
  let state := mix state 2 6 10 14 block[4] block[5]
  let state := mix state 3 7 11 15 block[6] block[7]
  let state := mix state 0 5 10 15 block[8] block[9]
  let state := mix state 1 6 11 12 block[10] block[11]
  let state := mix state 2 7 8 13 block[12] block[13]
  mix state 3 4 9 14 block[14] block[15]

/-- Reorder the words of a block between two rounds. -/
def permute (block : Words) : Words :=
  #v[block[2], block[6], block[3], block[10], block[7], block[0], block[4],
    block[13], block[1], block[11], block[12], block[5], block[9], block[14],
    block[15], block[8]]

/-- So many rounds, each on the reordered block of the one before. -/
def rounds : Nat → Words → Words → Words
  | 0, state, _ => state
  | count + 1, state, block => rounds count (round state block) (permute block)

/-- The input of one compression. -/
structure Compression where
  chain : Chain
  block : Words
  counter : Nat
  length : Nat
  flags : UInt32

namespace Compression

/-- The chain that a compression leaves behind. -/
def result (input : Compression) : Chain :=
  let chain := input.chain
  let state := rounds 7
    #v[chain[0], chain[1], chain[2], chain[3], chain[4], chain[5], chain[6],
      chain[7], initial[0], initial[1], initial[2], initial[3],
      UInt32.ofNat input.counter, UInt32.ofNat (input.counter / Nat.pow 2 32),
      UInt32.ofNat input.length, input.flags] input.block
  Vector.ofFn fun (place : Fin 8) => state[place.val] ^^^ state[place.val + 8]

/-- The same compression as the root of the tree. -/
def asRoot (input : Compression) : Compression :=
  { input with flags := input.flags ||| rootFlag }

end Compression

/-- The words of a block of bytes, padded with zeros. -/
def wordsOf (bytes : List UInt8) : Words :=
  let padded := bytes.toArray
  let byteAt (place : Nat) : UInt32 := (padded.getD place 0).toUInt32
  Vector.ofFn fun (place : Fin 16) =>
    byteAt (4 * place.val) ||| (byteAt (4 * place.val + 1) <<< 8) |||
      (byteAt (4 * place.val + 2) <<< 16) |||
      (byteAt (4 * place.val + 3) <<< 24)

/-- The last compression of a chunk, after compressing the blocks before it. -/
def chunkWith (counter : Nat) : Nat → Chain → UInt32 → List UInt8 → Compression
  | fuel, chain, start, bytes =>
      let block := bytes.take blockSize
      match fuel, bytes.drop blockSize with
      | _, [] =>
          ⟨chain, wordsOf block, counter, block.length, start ||| chunkEnd⟩
      | 0, _ =>
          ⟨chain, wordsOf block, counter, block.length, start ||| chunkEnd⟩
      | fuel + 1, rest =>
          let input : Compression :=
            ⟨chain, wordsOf block, counter, block.length, start⟩
          chunkWith counter fuel input.result 0 rest

/-- The last compression of the chunk of a number. -/
def chunk (counter : Nat) (bytes : List UInt8) : Compression :=
  chunkWith counter (chunkSize / blockSize) initial chunkStart bytes

/-- The compression that joins two subtrees. -/
def join (left right : Chain) : Compression :=
  ⟨initial, left ++ right, 0, blockSize, parent⟩

/-- How many bytes the left subtree of a longer sequence covers: the most chunks
that are a power of two and leave some bytes to the right. -/
def leftSize (length : Nat) : Nat :=
  Nat.pow 2 (Nat.log2 ((length - 1) / chunkSize)) * chunkSize

/-- The last compression of the subtree that starts with the chunk of a number.
Each subtree is shorter than its parent, so the length is fuel enough. -/
def subtreeWith : Nat → Nat → List UInt8 → Compression
  | 0, counter, bytes => chunk counter bytes
  | fuel + 1, counter, bytes =>
      if bytes.length ≤ chunkSize then chunk counter bytes
      else
        let size := leftSize bytes.length
        join (subtreeWith fuel counter (bytes.take size)).result
          (subtreeWith fuel (counter + size / chunkSize)
            (bytes.drop size)).result

/-- The hash of a byte sequence. -/
def hash (bytes : List UInt8) : List UInt8 :=
  let words := (subtreeWith bytes.length 0 bytes).asRoot.result
  words.toList.flatMap fun (word : UInt32) =>
    [word.toUInt8, (word >>> 8).toUInt8, (word >>> 16).toUInt8,
      (word >>> 24).toUInt8]

end Blake3
end NameService
