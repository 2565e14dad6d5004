import NameService.Proofs.Tree.History

/-!
# Mutations that are refused

A mutation answers with an error or with the word that it made nothing, or it
made something. In the first two cases the tree is the one before, down to the
order of children, although the walk makes directories as it goes and takes none
back; in the third it has grown. Mutations that were carried out once, in
whatever order and with whatever answer, are all refused from then on.
-/

namespace NameService
namespace Tree

variable {α : Type} {path : String} {action : Tree → Tree × α}

/-! ## Sizes -/

theorem size_pos (tree : Tree) : 0 < tree.size := by
  cases tree with
  | file name => simp [size]
  | directory name children index => simp [size]

theorem sizeAll_append (left right : List Tree) :
    sizeAll (left ++ right) = sizeAll left + sizeAll right := by
  induction left with
  | nil => simp [sizeAll]
  | cons node rest hypothesis =>
      simp only [List.cons_append, sizeAll, hypothesis]
      omega

/-- Trees of a list have more nodes once one of them has. -/
theorem sizeAll_lt_set
    {children : List Tree}
    {position : Nat}
    {child after : Tree}
    (held : children[position]? = some child)
    (larger : child.size < after.size) :
    sizeAll children < sizeAll (children.set position after) := by
  induction children generalizing position with
  | nil => simp at held
  | cons node rest hypothesis =>
      cases position with
      | zero =>
          have same : node = child := by simpa using held
          simp only [List.set_cons_zero, sizeAll, same]
          omega
      | succ position =>
          have below := hypothesis (by simpa using held)
          simp only [List.set_cons_succ, sizeAll]
          omega

/-- A walk that made a directory, or at whose end the action made something,
leaves a larger tree behind. -/
theorem size_lt_walk
    (makes : Bool × α → Prop)
    (grows : ∀ node, makes (false, (action node).2) →
      node.size < (action node).1.size)
    {node : Tree}
    {names : List String}
    {answer : Bool × α}
    (ended : (walk path action node names).2 = .ok answer)
    (made : makes answer) :
    node.size < (walk path action node names).1.size := by
  fun_induction walk path action node names generalizing answer with
  | case1 node after given acted =>
      have same : (false, given) = answer := by injection ended
      have larger := grows node
      rw [acted] at larger
      apply larger
      rw [same]
      exact made
  | case2 own name names => cases ended
  | case3 own children index name names missing child given walked hypothesis =>
      have positive := child.size_pos
      simp only [size, sizeAll_append, sizeAll]
      omega
  | case4 own children index name names position found missing => cases ended
  | case5 own children index name names position found child held isFile =>
      cases ended
  | case6 own children index name names position found child held isDirectory
    after given walked hypothesis =>
      have stillEnded : (walk path action child names).2 = .ok answer := by
        rw [walked]
        exact ended
      have larger := hypothesis stillEnded made
      rw [walked] at larger
      have whole :=
        sizeAll_lt_set held (show child.size < after.size from larger)
      simp only [size]
      omega

/-- A walk that made no directory leaves its first node as it was, if its action
does nothing. -/
theorem walk_unchanged_of_unmade
    (keeps : ∀ node, (action node).1 = node)
    {node : Tree}
    {names : List String}
    {given : α}
    (ended : (walk path action node names).2 = .ok (false, given)) :
    (walk path action node names).1 = node := by
  fun_induction walk path action node names with
  | case1 node after answer acted =>
      have same := keeps node
      rwa [acted] at same
  | case2 own name names => rfl
  | case3 own children index name names missing child answer walked
    hypothesis =>
      cases answer <;> simp [Except.map] at ended
  | case4 own children index name names position found missing => rfl
  | case5 own children index name names position found child held isFile => rfl
  | case6 own children index name names position found child held isDirectory
    after answer walked hypothesis =>
      have stillEnded : (walk path action child names).2 =
          .ok (false, given) := by
        rw [walked]
        exact ended
      have same := hypothesis stillEnded
      rw [walked] at same
      rw [show after = child from same, set_of_getElem?_eq_some held]

/-! ## All or nothing -/

/-- An answer that says that nothing was made: an error, or the word for it. -/
def Refuses (answer : Except TreeError Bool) : Prop :=
  (∃ cause, answer = .error cause) ∨ answer = .ok false

theorem not_refuses_iff {answer : Except TreeError Bool} :
    ¬ Refuses answer ↔ answer = .ok true := by
  cases answer with
  | error cause => simp [Refuses]
  | ok made => cases made <;> simp [Refuses]

/-- A file that is added makes its directory larger. -/
theorem size_lt_addFile
    {name : String}
    {node : Tree}
    (added : (addFile name node).2 = true) :
    node.size < (addFile name node).1.size := by
  cases node with
  | file own => cases added
  | directory own children index =>
      cases found : index.find? name with
      | some position => simp [addFile, found] at added
      | none => simp [addFile, found, size, sizeAll_append, sizeAll]

/-- Making a directory leaves the tree alone exactly if it is refused. -/
theorem makeDirectory_unchanged_iff (tree : Tree) (path : String) :
    (tree.makeDirectory path).1 = tree ↔
      Refuses (tree.makeDirectory path).2 := by
  constructor
  · intro same
    by_contra notRefused
    have made := not_refuses_iff.mp notRefused
    simp only [makeDirectory] at same made
    cases ended :
      (tree.walk path (fun node => (node, ())) (Path.components path)).2 with
    | error cause => simp [ended, Except.map] at made
    | ok answer =>
        have isMade : answer.1 = true := by simpa [ended, Except.map] using made
        have larger :=
          size_lt_walk (fun answer => answer.1 = true) (by simp) ended isMade
        rw [same] at larger
        exact Nat.lt_irrefl _ larger
  · rintro (⟨cause, failed⟩ | nothing)
    · exact makeDirectory_unchanged_of_error failed
    · simp only [makeDirectory] at nothing ⊢
      cases ended :
        (tree.walk path (fun node => (node, ())) (Path.components path)).2 with
      | error cause => simp [ended, Except.map] at nothing
      | ok answer =>
          obtain ⟨made, given⟩ := answer
          have notMade : made = false := by
            simpa [ended, Except.map] using nothing
          rw [notMade] at ended
          exact walk_unchanged_of_unmade (fun _ => rfl) ended

/-- Creating a file leaves the tree alone exactly if it is refused. -/
theorem createFile_unchanged_iff (tree : Tree) (path : String) :
    (tree.createFile path).1 = tree ↔ Refuses (tree.createFile path).2 := by
  constructor
  · intro same
    by_contra notRefused
    have made := not_refuses_iff.mp notRefused
    simp only [createFile] at same made
    cases split : Path.splitParent? path with
    | none => simp [split] at made
    | some pair =>
        obtain ⟨parents, name⟩ := pair
        simp only [split] at same made
        cases ended : (tree.walk path (addFile name) parents).2 with
        | error cause => simp [ended, Except.map] at made
        | ok answer =>
            have isAdded : answer.2 = true := by
              simpa [ended, Except.map] using made
            have larger := size_lt_walk (fun answer => answer.2 = true)
              (fun _ => size_lt_addFile) ended isAdded
            rw [same] at larger
            exact Nat.lt_irrefl _ larger
  · rintro (⟨cause, failed⟩ | nothing)
    · exact createFile_unchanged_of_error failed
    · exact createFile_unchanged_of_false nothing

/-- A mutation leaves the tree alone exactly if it is refused. -/
theorem apply_unchanged_iff (tree : Tree) (operation : Operation) :
    (tree.apply operation).1 = tree ↔ Refuses (tree.apply operation).2 := by
  cases operation with
  | makeDirectory path => exact tree.makeDirectory_unchanged_iff path
  | createFile path => exact tree.createFile_unchanged_iff path

/-- Every mutation is carried out in full or not at all: the tree that it leaves
behind is the one before, children and their order included, exactly if its
answer is an error or the word that nothing was made. -/
theorem mutations_unchanged_iff (tree : Tree) :
    (∀ path, (tree.makeDirectory path).1 = tree ↔
      Refuses (tree.makeDirectory path).2) ∧
      (∀ path, (tree.createFile path).1 = tree ↔
        Refuses (tree.createFile path).2) ∧
      ∀ operation, (tree.apply operation).1 = tree ↔
      Refuses (tree.apply operation).2 :=
  ⟨tree.makeDirectory_unchanged_iff, tree.createFile_unchanged_iff,
    tree.apply_unchanged_iff⟩

/-! ## Mutations carried out again -/

/-- Once mutations were carried out on a well-formed tree, whatever came of
them, each is refused, and any of them in any order, one or many times, leave
the tree as it is: the way down each path is decided, so it leads to an entry or
a file is in the way. -/
theorem absorbAll_again_idle
    {tree : Tree}
    (wellFormed : WellFormed tree)
    {operations again : List Operation}
    (old : ∀ operation ∈ again, operation ∈ operations) :
    (tree.absorbAll operations).absorbAll again = tree.absorbAll operations ∧
      ∀ operation ∈ operations,
        Refuses ((tree.absorbAll operations).apply operation).2 ∧
        Decided (tree.absorbAll operations)
          (Path.components operation.path) := by
  refine ⟨absorbAll_again wellFormed old, fun operation present => ?_⟩
  have decided := decided_absorbAll wellFormed present
  have unchanged : ((tree.absorbAll operations).apply operation).1 =
      tree.absorbAll operations :=
    absorb_of_decided decided
  exact ⟨(apply_unchanged_iff _ operation).mp unchanged, decided⟩

/-- Mutations of which some fail, at a file in the way or at a name that is
taken. -/
def contraryMutations : List Operation :=
  [.createFile "/a/b", .makeDirectory "/a/b", .makeDirectory "/c",
    .createFile "/c", .createFile "/a/b/d", .makeDirectory "//c/ /e/",
    .createFile "c/e/f", .makeDirectory "/"]

/-- A namespace with a file, through which one of them leads. -/
def contraryTree : Tree := root.absorb (.createFile "/c/e")

/-- All of them again, from the last to the first and then in order. -/
theorem absorbAll_again_idle_contrary :
    WellFormed contraryTree ∧
      (∀ operation ∈ contraryMutations.reverse ++ contraryMutations,
        operation ∈ contraryMutations) ∧
      (contraryTree.absorbAll contraryMutations).absorbAll
          (contraryMutations.reverse ++ contraryMutations) =
        contraryTree.absorbAll contraryMutations ∧
      ∀ operation ∈ contraryMutations,
        Refuses ((contraryTree.absorbAll contraryMutations).apply operation).2 ∧
        Decided (contraryTree.absorbAll contraryMutations)
          (Path.components operation.path) := by
  have wellFormed : WellFormed contraryTree := wellFormed_root.absorb _
  have old : ∀ operation ∈ contraryMutations.reverse ++ contraryMutations,
      operation ∈ contraryMutations := by
    simp
  exact ⟨wellFormed, old, absorbAll_again_idle wellFormed old⟩

end Tree
end NameService
