import Mathlib.Data.List.Forall2
import NameService.Digest
import NameService.Proofs.Text.Utf8
import NameService.Proofs.Word

/-!
# What a digest tells

The bytes that are fed to the hash can be taken apart again, since each node
gives the length of its name and the number of its children. So they determine
the names, the kinds and the order of all nodes, and the bytes of one tree do
not go on as those of another.
-/

namespace NameService

/-- Different texts have different bytes. -/
theorem Text.utf8_injective : Function.Injective Text.utf8 := by
  intro left right same
  have read := congrArg Text.ofUtf8? same
  rw [Text.ofUtf8?_utf8, Text.ofUtf8?_utf8] at read
  exact Option.some.inj read

namespace Tree

/-- Trees of equal names and kinds, with their children in the same order. -/
inductive Alike : Tree → Tree → Prop
  | file (name : String) : Alike (.file name) (.file name)
  | directory (name : String)
      {left right : List Tree}
      {leftIndex rightIndex : NameIndex}
      (children : List.Forall₂ Alike left right) :
      Alike (.directory name left leftIndex) (.directory name right rightIndex)

/-- The lengths of the names and the numbers of the children are words. -/
inductive Measured : Tree → Prop
  | file {name : String}
      (short : (Text.utf8 name.toList).length ≤ Word.max) :
      Measured (.file name)
  | directory {name : String} {children : List Tree} {index : NameIndex}
      (short : (Text.utf8 name.toList).length ≤ Word.max)
      (few : children.length ≤ Word.max)
      (below : ∀ child ∈ children, Measured child) :
      Measured (.directory name children index)

/-! ## Headers -/

theorem kindByte_injective : Function.Injective kindByte := by
  intro left right same
  cases left <;> cases right <;> first | rfl | cases same

/-- The header of a node is told apart from what stands behind it. -/
theorem headerBytes_append_inj
    {leftKind rightKind : Kind}
    {leftName rightName : String}
    {leftCount rightCount : Nat}
    {left right : List UInt8}
    (leftShort : (Text.utf8 leftName.toList).length ≤ Word.max)
    (rightShort : (Text.utf8 rightName.toList).length ≤ Word.max)
    (leftFew : leftCount ≤ Word.max)
    (rightFew : rightCount ≤ Word.max)
    (same : headerBytes leftKind leftName leftCount ++ left =
      headerBytes rightKind rightName rightCount ++ right) :
    leftKind = rightKind ∧ leftName = rightName ∧ leftCount = rightCount ∧
      left = right := by
  simp only [headerBytes, List.cons_append, List.append_assoc,
    List.cons.injEq] at same
  obtain ⟨sameKind, same⟩ := same
  obtain ⟨sameLength, same⟩ := List.append_inj same (by simp)
  have lengths := Word.littleEndian_injective leftShort rightShort sameLength
  obtain ⟨sameName, same⟩ := List.append_inj same lengths
  obtain ⟨sameCount, rest⟩ := List.append_inj same (by simp)
  exact ⟨kindByte_injective sameKind,
    String.toList_injective (Text.utf8_injective sameName),
    Word.littleEndian_injective leftFew rightFew sameCount, rest⟩

/-! ## Trees -/

/-- The bytes of as many trees are taken apart tree by tree, if those of each
tree can be told apart from what stands behind them. -/
theorem digestInputAll_append_inj
    {left right : List Tree}
    (each : ∀ child ∈ left, ∀ other ∈ right, ∀ {behind more : List UInt8},
      child.digestInput ++ behind = other.digestInput ++ more →
        Alike child other ∧ behind = more)
    (sameLength : left.length = right.length)
    {behind more : List UInt8}
    (same : digestInputAll left ++ behind = digestInputAll right ++ more) :
    List.Forall₂ Alike left right ∧ behind = more := by
  induction left generalizing right with
  | nil =>
      obtain rfl : right = [] := List.eq_nil_of_length_eq_zero sameLength.symm
      exact ⟨.nil, same⟩
  | cons child left hypothesis =>
      cases right with
      | nil => cases sameLength
      | cons other right =>
          rw [digestInputAll, digestInputAll, List.append_assoc,
            List.append_assoc] at same
          obtain ⟨alike, rest⟩ :=
            each child List.mem_cons_self other List.mem_cons_self same
          obtain ⟨all, behindSame⟩ := hypothesis
            (fun child present other isOther =>
              each child (.tail _ present) other (.tail _ isOther))
            (Nat.succ.inj sameLength) rest
          exact ⟨.cons alike all, behindSame⟩

/-- The bytes of a tree are told apart from what stands behind them, and
determine the tree. -/
theorem Measured.digestInput_append_inj
    {left right : Tree}
    (leftMeasured : Measured left)
    (rightMeasured : Measured right)
    {behind more : List UInt8}
    (same : left.digestInput ++ behind = right.digestInput ++ more) :
    Alike left right ∧ behind = more := by
  induction leftMeasured generalizing right behind more with
  | file short =>
      cases rightMeasured with
      | file otherShort =>
          obtain ⟨-, rfl, -, rest⟩ := headerBytes_append_inj short otherShort
            (Nat.zero_le _) (Nat.zero_le _) same
          exact ⟨.file _, rest⟩
      | directory otherShort otherFew _ =>
          rw [digestInput, digestInput, List.append_assoc] at same
          obtain ⟨sameKind, -⟩ := headerBytes_append_inj short otherShort
            (Nat.zero_le _) otherFew same
          cases sameKind
  | directory short few below hypothesis =>
      cases rightMeasured with
      | file otherShort =>
          rw [digestInput, digestInput, List.append_assoc] at same
          obtain ⟨sameKind, -⟩ :=
            headerBytes_append_inj short otherShort few (Nat.zero_le _) same
          cases sameKind
      | directory otherShort otherFew otherBelow =>
          rw [digestInput, digestInput, List.append_assoc,
            List.append_assoc] at same
          obtain ⟨-, rfl, sameCount, same⟩ :=
            headerBytes_append_inj short otherShort few otherFew same
          obtain ⟨children, rest⟩ := digestInputAll_append_inj
            (fun child present other isOther =>
              hypothesis child present (otherBelow other isOther)) sameCount
            same
          exact ⟨.directory _ children, rest⟩

mutual

/-- Trees of equal names, kinds and order have equal bytes. -/
theorem Alike.digestInput_eq {left right : Tree} :
    Alike left right → left.digestInput = right.digestInput
  | .file name => rfl
  | .directory name children => by
      rw [digestInput, digestInput, digestInputAll_eq children,
        children.length_eq]

theorem digestInputAll_eq {left right : List Tree} :
    List.Forall₂ Alike left right → digestInputAll left = digestInputAll right
  | .nil => rfl
  | .cons alike all => by
      rw [digestInputAll, digestInputAll, alike.digestInput_eq,
        digestInputAll_eq all]

end

/-! ## Digests -/

theorem digitChar_injective_of_lt :
    ∀ left < 16, ∀ right < 16, Nat.digitChar left = Nat.digitChar right →
      left = right := by
  decide

/-- Different bytes are written differently. -/
theorem hexText_injective : Function.Injective hexText := by
  intro left right same
  have digits := String.ofList_injective same
  clear same
  induction left generalizing right with
  | nil =>
      cases right with
      | nil => rfl
      | cons byte right => simp at digits
  | cons byte left hypothesis =>
      cases right with
      | nil => simp at digits
      | cons other right =>
          simp only [List.flatMap_cons, List.cons_append, List.nil_append,
            List.cons.injEq] at digits
          obtain ⟨high, low, rest⟩ := digits
          have highSame :=
            digitChar_injective_of_lt _ (by have := byte.toNat_lt; omega) _
              (by have := other.toNat_lt; omega) high
          have lowSame :=
            digitChar_injective_of_lt _ (Nat.mod_lt _ (by decide)) _
              (Nat.mod_lt _ (by decide)) low
          have sameByte : byte = other := UInt8.toNat_inj.mp (by omega)
          rw [sameByte, hypothesis rest]

/-- Two byte sequences collide if they differ and have one hash. -/
def Collide (left right : List UInt8) : Prop :=
  left ≠ right ∧ Blake3.hash left = Blake3.hash right

/-- What the bytes and the digests of two trees tell about the trees. -/
structure Discerned (left right : Tree) : Prop where
  /-- Equal bytes stand for equal names, kinds and order. -/
  determines : left.digestInput = right.digestInput ↔ Alike left right
  /-- The bytes of one tree are no proper beginning of those of the other. -/
  whole : left.digestInput <+: right.digestInput →
    left.digestInput = right.digestInput
  /-- Equal digests tell the same, unless the hash collides. -/
  digests : left.digest = right.digest →
    Alike left right ∨ Collide left.digestInput right.digestInput

/-- The bytes that are hashed determine the names, the kinds and the order of a
tree, so the digests of different trees are equal only if the hash collides. -/
theorem digestInput_determines
    {left right : Tree}
    (leftMeasured : Measured left)
    (rightMeasured : Measured right) :
    Discerned left right := by
  have alike_of_append {behind : List UInt8}
      (same : left.digestInput ++ behind = right.digestInput) :
      Alike left right := by
    rw [← List.append_nil right.digestInput] at same
    exact (leftMeasured.digestInput_append_inj rightMeasured same).1
  have alike_of_eq (same : left.digestInput = right.digestInput) :
      Alike left right := by
    apply alike_of_append
    rw [List.append_nil, same]
  constructor
  · exact ⟨alike_of_eq, Alike.digestInput_eq⟩
  · rintro ⟨behind, same⟩
    exact (alike_of_append same).digestInput_eq
  · intro same
    by_cases alike : Alike left right
    · exact .inl alike
    · right
      exact ⟨fun equal => alike (alike_of_eq equal), hexText_injective same⟩

/-- A file in a directory below the root. -/
def nested : Tree :=
  .directory rootName
    [.directory "a" [.file "b"] (NameIndex.empty.insert "b" 0)]
    (NameIndex.empty.insert "a" 0)

/-- The same nodes in the same order, with the file beside the directory. -/
def beside : Tree :=
  .directory rootName [emptyDirectory "a", .file "b"]
    ((NameIndex.empty.insert "a" 0).insert "b" 1)

/-- Trees that differ in nothing but the numbers of children. -/
theorem digestInput_determines_nested :
    Measured nested ∧ Measured beside ∧ Discerned nested beside ∧
      ¬ nested.digestInput <+: beside.digestInput := by
  have nestedMeasured : Measured nested := by
    refine .directory (by decide) (by decide) (List.forall_mem_singleton.mpr ?_)
    exact .directory (by decide) (by decide)
      (List.forall_mem_singleton.mpr (.file (by decide)))
  have besideMeasured : Measured beside := by
    refine .directory (by decide) (by decide)
      (List.forall_mem_cons.mpr ⟨?_, ?_⟩)
    · exact .directory (by decide) (by decide)
        (fun _ present => (List.not_mem_nil present).elim)
    · exact List.forall_mem_singleton.mpr (.file (by decide))
  have discerned := digestInput_determines nestedMeasured besideMeasured
  refine ⟨nestedMeasured, besideMeasured, discerned, ?_⟩
  intro isPrefix
  cases discerned.determines.mp (discerned.whole isPrefix) with
  | directory _ children => cases children.length_eq

end Tree
end NameService
