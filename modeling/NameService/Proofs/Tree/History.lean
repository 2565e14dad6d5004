import NameService.Proofs.Tree.Growth

/-!
# The tree of a history

A history is a list of mutations, numbered from one on. Its tree after so many
of them is what they make of an empty tree when those that fail are skipped.
Carrying out older mutations of the history again changes nothing.
-/

namespace NameService

namespace Tree

/-- Carry out mutations in order and skip those that fail. -/
def absorbAll (tree : Tree) (operations : List Operation) : Tree :=
  operations.foldl absorb tree

@[simp] theorem absorbAll_nil (tree : Tree) : tree.absorbAll [] = tree := rfl

@[simp] theorem absorbAll_cons
    (tree : Tree)
    (operation : Operation)
    (rest : List Operation) :
    tree.absorbAll (operation :: rest) =
      (tree.absorb operation).absorbAll rest := rfl

theorem absorbAll_append (tree : Tree) (left right : List Operation) :
    tree.absorbAll (left ++ right) = (tree.absorbAll left).absorbAll right := by
  simp [absorbAll]

/-- The tree of the first mutations of a history. -/
def ofHistory (history : List Operation) (count : Nat) : Tree :=
  root.absorbAll (history.take count)

/-- The tree of a history sees only the mutations that it counts. -/
theorem ofHistory_take
    (history : List Operation)
    {count bound : Nat}
    (within : count ≤ bound) :
    ofHistory (history.take bound) count = ofHistory history count := by
  rw [ofHistory, ofHistory, List.take_take, Nat.min_eq_left within]

theorem ofHistory_append
    (history more : List Operation)
    {count : Nat}
    (within : count ≤ history.length) :
    ofHistory (history ++ more) count = ofHistory history count := by
  rw [← ofHistory_take (history ++ more) within, List.take_left]

/-- The last mutation of a history is carried out on the tree before it. -/
theorem ofHistory_last (history : List Operation) (operation : Operation) :
    ofHistory (history ++ [operation]) (history.length + 1) =
      (ofHistory history history.length).absorb operation := by
  rw [ofHistory, ofHistory, List.take_of_length_le (by simp), List.take_length,
    absorbAll_append]
  rfl

theorem kind_absorb (tree : Tree) (operation : Operation) :
    (tree.absorb operation).kind = tree.kind := by
  cases operation with
  | makeDirectory path => exact kind_walk (fun _ => rfl) tree _
  | createFile path =>
      simp only [absorb, apply, createFile]
      split
      · rfl
      · exact kind_walk (kind_addFile _) tree _

theorem name_absorb (tree : Tree) (operation : Operation) :
    (tree.absorb operation).name = tree.name := by
  cases operation with
  | makeDirectory path => exact name_walk (fun _ => rfl) tree _
  | createFile path =>
      simp only [absorb, apply, createFile]
      split
      · rfl
      · exact name_walk (name_addFile _) tree _

/-- What mutations keep is kept by any number of them. -/
theorem absorbAll_induction
    (keeps : Tree → Prop)
    (step : ∀ tree operation, keeps tree → keeps (tree.absorb operation))
    {tree : Tree}
    (initial : keeps tree)
    (operations : List Operation) :
    keeps (tree.absorbAll operations) := by
  induction operations generalizing tree with
  | nil => exact initial
  | cons operation rest hypothesis =>
      exact hypothesis (step tree operation initial)

theorem WellFormed.absorbAll
    {tree : Tree}
    (wellFormed : WellFormed tree)
    (operations : List Operation) :
    WellFormed (tree.absorbAll operations) :=
  absorbAll_induction _ (fun _ operation kept => kept.absorb operation)
    wellFormed operations

theorem grows_absorbAll (tree : Tree) (operations : List Operation) :
    Grows tree (tree.absorbAll operations) :=
  absorbAll_induction _
    (fun _ operation grown => grown.trans (grows_absorb _ operation))
    (.refl tree) operations

/-- The trees of a history are well-formed. -/
theorem wellFormed_ofHistory (history : List Operation) (count : Nat) :
    WellFormed (ofHistory history count) :=
  wellFormed_root.absorbAll _

/-- The trees of a history are directories of the root's name. -/
theorem kind_ofHistory (history : List Operation) (count : Nat) :
    (ofHistory history count).kind = .directory :=
  absorbAll_induction (fun tree => tree.kind = .directory)
    (fun tree operation kept => (kind_absorb tree operation).trans kept) rfl _

theorem name_ofHistory (history : List Operation) (count : Nat) :
    (ofHistory history count).name = rootName :=
  absorbAll_induction (fun tree => tree.name = rootName)
    (fun tree operation kept => (name_absorb tree operation).trans kept) rfl _

/-- A tree can be the root of a namespace. -/
structure Rooted (tree : Tree) : Prop where
  wellFormed : WellFormed tree
  isDirectory : tree.kind = .directory
  isRoot : tree.name = rootName

theorem rooted_root : Rooted root := ⟨wellFormed_root, rfl, rfl⟩

theorem Rooted.absorb
    {tree : Tree}
    (rooted : Rooted tree)
    (operation : Operation) :
    Rooted (tree.absorb operation) :=
  ⟨rooted.wellFormed.absorb operation,
    (kind_absorb tree operation).trans rooted.isDirectory,
    (name_absorb tree operation).trans rooted.isRoot⟩

theorem Rooted.absorbAll
    {tree : Tree}
    (rooted : Rooted tree)
    (operations : List Operation) :
    Rooted (tree.absorbAll operations) :=
  absorbAll_induction Rooted (fun _ operation kept => kept.absorb operation)
    rooted operations

/-- A mutation carried out once is decided from then on. -/
theorem decided_absorbAll
    {tree : Tree}
    (wellFormed : WellFormed tree)
    {operations : List Operation}
    {operation : Operation}
    (present : operation ∈ operations) :
    Decided (tree.absorbAll operations) (Path.components operation.path) := by
  obtain ⟨front, back, rfl⟩ := List.append_of_mem present
  rw [absorbAll_append, absorbAll_cons]
  exact (decided_absorb (wellFormed.absorbAll front) operation).grows
    (grows_absorbAll _ back)

/-- Mutations carried out once may be carried out again. -/
theorem absorbAll_again
    {tree : Tree}
    (wellFormed : WellFormed tree)
    {operations again : List Operation}
    (old : again ⊆ operations) :
    (tree.absorbAll operations).absorbAll again =
      tree.absorbAll operations := by
  induction again with
  | nil => rfl
  | cons operation rest hypothesis =>
      have settled := absorb_of_decided
        (decided_absorbAll wellFormed (old List.mem_cons_self))
      rw [absorbAll_cons, settled]
      exact hypothesis fun _ present => old (.tail _ present)

/-- Mutations of a history that start where its tree already was lead on to the
later tree. -/
theorem ofHistory_absorbAll
    (history : List Operation)
    {start count : Nat}
    (covered : start ≤ count)
    (stop : Nat) :
    (ofHistory history count).absorbAll
      ((history.drop start).take (stop - start)) =
      ofHistory history (max count stop) := by
  have old : ∀ bound, bound ≤ count →
      (history.drop start).take (bound - start) ⊆ history.take count := by
    intro bound within operation present
    rw [← List.drop_take] at present
    exact (List.take_sublist_take_left within).mem
      (List.mem_of_mem_drop present)
  by_cases reached : stop ≤ count
  · rw [Nat.max_eq_left reached]
    exact absorbAll_again wellFormed_root (old stop reached)
  · have beyond : count ≤ stop := Nat.le_of_not_le reached
    have split : (history.drop start).take (stop - start) =
        (history.drop start).take (count - start) ++
          (history.drop count).take (stop - count) := by
      rw [show stop - start = (count - start) + (stop - count) by omega,
        List.take_add, List.drop_drop,
        show start + (count - start) = count by omega]
    have whole : history.take stop =
        history.take count ++ (history.drop count).take (stop - count) := by
      rw [← List.take_add, show count + (stop - count) = stop by omega]
    rw [Nat.max_eq_right beyond, split, absorbAll_append]
    rw [show ofHistory history count = root.absorbAll (history.take count) from
      rfl,
      absorbAll_again wellFormed_root (old count (Nat.le_refl _)), ofHistory,
      whole, absorbAll_append]

end Tree
end NameService
