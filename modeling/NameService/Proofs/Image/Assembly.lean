import NameService.Proofs.Tree.WellFormed

/-!
# Trees put together from their entries

The entries of a well-formed namespace are put together to the namespace. Read
from the last one on, the entries of a node leave the node waiting for its
parent, in front of its later siblings.
-/

namespace NameService
namespace Image

/-! ## Entries -/

mutual

/-- A tree has an entry for each node. -/
theorem length_entriesFrom (parent : Option Nat) (position : Nat) :
    ∀ tree : Tree, (entriesFrom parent position tree).length = tree.size
  | .file name => by simp [entriesFrom, Tree.size]
  | .directory name children index => by
      simp [entriesFrom, Tree.size,
        length_entriesOfChildren position (position + 1) children]

theorem length_entriesOfChildren (parent next : Nat) :
    ∀ children : List Tree,
      (entriesOfChildren parent next children).length = Tree.sizeAll children
  | [] => by simp [entriesOfChildren, Tree.sizeAll]
  | child :: rest => by
      simp [entriesOfChildren, Tree.sizeAll,
        length_entriesFrom (some parent) next child,
        length_entriesOfChildren parent (next + child.size) rest]

end

mutual

/-- The parents of entries stand before the last one. -/
theorem parent_lt_of_mem_entriesFrom
    {parent : Option Nat}
    {position : Nat}
    (earlier : ∀ place ∈ parent, place < position) :
    ∀ {tree : Tree} {entry : Entry}, entry ∈ entriesFrom parent position tree →
      ∀ place ∈ entry.parent, place < position + tree.size
  | .file name, entry, present, place, isParent => by
      obtain rfl : entry = ⟨parent, name, .file⟩ := by
        simpa [entriesFrom] using present
      exact Nat.lt_add_right _ (earlier place isParent)
  | .directory name children index, entry, present, place, isParent => by
      rw [entriesFrom] at present
      rw [Tree.size]
      rcases List.mem_cons.mp present with rfl | below
      · exact Nat.lt_add_right _ (earlier place isParent)
      · have bound :=
          parent_lt_of_mem_entriesOfChildren (Nat.lt_succ_self position) below
            place isParent
        omega

theorem parent_lt_of_mem_entriesOfChildren
    {parent next : Nat}
    (earlier : parent < next) :
    ∀ {children : List Tree} {entry : Entry},
      entry ∈ entriesOfChildren parent next children →
      ∀ place ∈ entry.parent, place < next + Tree.sizeAll children
  | [], entry, present, place, isParent => by
    simp [entriesOfChildren] at present
  | child :: rest, entry, present, place, isParent => by
      rw [entriesOfChildren] at present
      rw [Tree.sizeAll]
      rcases List.mem_append.mp present with inChild | inRest
      · have parentEarlier : ∀ place ∈ some parent, place < next :=
          fun place isPlace => Option.some.inj isPlace ▸ earlier
        have bound :=
          parent_lt_of_mem_entriesFrom parentEarlier inChild place isParent
        omega
      · have bound :=
          parent_lt_of_mem_entriesOfChildren
            (Nat.lt_add_right child.size earlier) inRest place isParent
        omega

end

/-! ## Assembly -/

/-- A directory takes children of distinct names. -/
theorem pushAll_children
    (own : String)
    (front : List Tree)
    {back : List Tree}
    (distinct : ((front ++ back).map Tree.name).Nodup) :
    (Tree.directory own front (.ofNames (front.map Tree.name))).pushAll back =
      .ok (.directory own (front ++ back)
        (.ofNames ((front ++ back).map Tree.name))) := by
  induction back generalizing front with
  | nil => simp [Tree.pushAll]
  | cons child back hypothesis =>
      have isNew : child.name ∉ front.map Tree.name := by
        rw [List.map_append, List.map_cons] at distinct
        exact fun present =>
          (List.nodup_append.mp distinct).2.2 _ present _ List.mem_cons_self rfl
      have missing := NameIndex.find?_ofNames_eq_none_iff.mpr isNew
      have pushed :
          (Tree.directory own front (.ofNames (front.map Tree.name))).push
            child =
          .ok (.directory own (front ++ [child])
            (.ofNames ((front ++ [child]).map Tree.name))) := by
        simp [Tree.push, missing]
      have rest := hypothesis (front ++ [child]) (by simpa using distinct)
      rw [Tree.pushAll, pushed]
      simpa [bind, Except.bind] using rest

/-- Children wait for their own parent. -/
theorem waitingFor_append
    {position : Nat}
    {pending : List (Nat × Tree)}
    (earlier : ∀ waiting ∈ pending, waiting.1 < position)
    (children : List Tree) :
    waitingFor position (children.map (position, ·) ++ pending) = children ∧
      waitingElsewhere position (children.map (position, ·) ++ pending) =
        pending := by
  have elsewhere : ∀ waiting ∈ pending, (waiting.1 == position) = false :=
    fun waiting present =>
    beq_false_of_ne (Nat.ne_of_lt (earlier waiting present))
  constructor
  · rw [waitingFor, List.filter_append, List.filter_eq_self.mpr (by simp),
      List.filter_eq_nil_iff.mpr fun waiting present => by
        simp [elsewhere waiting present]]
    simp [Function.comp_def]
  · rw [waitingElsewhere, List.filter_append,
      List.filter_eq_nil_iff.mpr (by simp),
      List.filter_eq_self.mpr fun waiting present => by
        simpa using Nat.ne_of_lt (earlier waiting present)]
    rfl

mutual

/-- The entries of a node leave it waiting for its parent. -/
theorem assembleFrom_entriesFrom
    {parent position : Nat}
    (later : parent < position)
    {pending : List (Nat × Tree)}
    (earlierPending : ∀ waiting ∈ pending, waiting.1 < position)
    (earlier : List (Entry × Nat)) :
    ∀ {tree : Tree}, tree.WellFormed → usableName tree.name = true →
      assembleFrom
        (((entriesFrom (some parent) position tree).zipIdx position).reverse ++
          earlier) pending =
        assembleFrom earlier ((parent, tree) :: pending)
  | .file name, _, usable => by
      have waits := waitingFor_append earlierPending []
      rw [List.map_nil, List.nil_append] at waits
      have notFirst : position ≠ 0 := Nat.ne_zero_of_lt later
      simp only [Tree.name_file] at usable
      simp [entriesFrom, assembleFrom, waits, Tree.leaf, Tree.pushAll, notFirst,
        later, usable, bind, Except.bind]
  | .directory name children index, wellFormed, usable => by
      cases wellFormed with
      | directory _ distinct childrenUsable below =>
          have waits := waitingFor_append earlierPending children
          have taken := pushAll_children name [] distinct
          have notFirst : position ≠ 0 := Nat.ne_zero_of_lt later
          simp only [Tree.name_directory] at usable
          rw [entriesFrom, List.zipIdx_cons, List.reverse_cons,
            List.append_assoc,
            assembleFrom_entriesOfChildren (Nat.lt_succ_self position)
              (fun waiting present =>
                Nat.lt_succ_of_lt (earlierPending waiting present)) _ below
              childrenUsable]
          simp only [List.map_nil, NameIndex.ofNames_nil,
            List.nil_append] at taken
          simp [assembleFrom, waits, Tree.leaf, Tree.emptyDirectory, taken,
            notFirst, later, usable, bind, Except.bind]

/-- The entries of siblings leave them waiting for their parent in order. -/
theorem assembleFrom_entriesOfChildren
    {parent next : Nat}
    (later : parent < next)
    {pending : List (Nat × Tree)}
    (earlierPending : ∀ waiting ∈ pending, waiting.1 < next)
    (earlier : List (Entry × Nat)) :
    ∀ {children : List Tree}, (∀ child ∈ children, child.WellFormed) →
      (∀ child ∈ children, usableName child.name = true) →
      assembleFrom
        (((entriesOfChildren parent next children).zipIdx next).reverse ++
          earlier) pending =
        assembleFrom earlier (children.map (parent, ·) ++ pending)
  | [], _, _ => by simp [entriesOfChildren]
  | child :: rest, wellFormed, usable => by
      obtain ⟨childWellFormed, restWellFormed⟩ :=
        List.forall_mem_cons.mp wellFormed
      obtain ⟨childUsable, restUsable⟩ := List.forall_mem_cons.mp usable
      rw [entriesOfChildren, List.zipIdx_append, length_entriesFrom,
        List.reverse_append, List.append_assoc,
        assembleFrom_entriesOfChildren (Nat.lt_add_right child.size later)
          (fun waiting present =>
            Nat.lt_add_right _ (earlierPending waiting present)) _
          restWellFormed restUsable,
        assembleFrom_entriesFrom later ?_ earlier childWellFormed childUsable]
      · rfl
      · intro waiting present
        rcases List.mem_append.mp present with isSibling | isPending
        · obtain ⟨sibling, -, rfl⟩ := List.mem_map.mp isSibling
          exact later
        · exact earlierPending waiting isPending

end

/-- The entries of a well-formed namespace are put together to the namespace. -/
theorem assemble_entries
    {tree : Tree}
    (wellFormed : tree.WellFormed)
    (isDirectory : tree.kind = .directory)
    (isRoot : tree.name = Tree.rootName) :
    assemble (entries tree) = .ok tree := by
  cases wellFormed with
  | file name => cases isDirectory
  | @directory name children distinct usable below =>
      obtain rfl : name = Tree.rootName := isRoot
      have nonePending (position : Nat) : ∀ waiting ∈ ([] : List (Nat × Tree)),
          waiting.1 < position :=
        fun _ present => (List.not_mem_nil present).elim
      have waits := waitingFor_append (nonePending 0) children
      have taken := pushAll_children Tree.rootName [] distinct
      simp only [List.map_nil, NameIndex.ofNames_nil, List.nil_append] at taken
      rw [entries, entriesFrom, assemble]
      simp only [Entry.isRoot, Option.isNone_none, beq_self_eq_true,
        Bool.and_self, if_true]
      rw [List.zipIdx_cons, List.reverse_cons,
        assembleFrom_entriesOfChildren Nat.zero_lt_one (nonePending 1) _ below
          usable]
      rw [List.append_nil] at waits ⊢
      simp [assembleFrom, waits, Tree.leaf, Tree.emptyDirectory, taken, bind,
        Except.bind, pure, Except.pure]

end Image
end NameService
