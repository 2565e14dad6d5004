import NameService.Proofs.Tree.WellFormed

/-!
# Mutations carried out again

Mutations only add to a tree: what a path leads to stays, and stays what it is.
After a mutation the way down its path is decided: it leads to a node, or a file
is in the way. Nothing later changes that, so carrying out the mutation again
changes nothing.
-/

namespace NameService
namespace Tree

variable {α : Type} {path : String} {action : Tree → Tree × α}

/-! ## Growth -/

/-- Whatever a tree leads to, the other leads to as well, and it is of the same
kind. -/
def Grows (before after : Tree) : Prop :=
  ∀ names node, before.descend? names = some node →
    ∃ grown, after.descend? names = some grown ∧ grown.kind = node.kind

theorem Grows.refl (tree : Tree) :
    Grows tree tree := fun _ node found => ⟨node, found, rfl⟩

theorem Grows.trans {before between after : Tree} (first : Grows before between)
    (second : Grows between after) : Grows before after := by
  intro names node found
  obtain ⟨grown, isGrown, sameKind⟩ := first names node found
  obtain ⟨final, isFinal, finalKind⟩ := second names grown isGrown
  exact ⟨final, isFinal, finalKind.trans sameKind⟩

theorem child?_directory
    (own : String)
    (children : List Tree)
    (index : NameIndex)
    (name : String) :
    (directory own children index).child? name =
      (index.find? name).bind fun position => children[position]? := rfl

/-- A directory grows if every child grows in its place. -/
theorem grows_directory
    {own : String}
    {children grownChildren : List Tree}
    {index grownIndex : NameIndex}
    (each : ∀ name child,
      (directory own children index).child? name = some child →
      ∃ grown,
        (directory own grownChildren grownIndex).child? name = some grown ∧
        Grows child grown) :
    Grows (directory own children index)
      (directory own grownChildren grownIndex) := by
  intro names node found
  cases names with
  | nil =>
      obtain rfl : directory own children index = node := by simpa using found
      exact ⟨_, descend?_nil _, rfl⟩
  | cons name names =>
      rw [descend?_cons] at found
      obtain ⟨child, isChild, below⟩ := Option.bind_eq_some_iff.mp found
      obtain ⟨grown, isGrown, grows⟩ := each name child isChild
      obtain ⟨final, isFinal, sameKind⟩ := grows names node below
      exact ⟨final, by rw [descend?_cons, isGrown]; exact isFinal, sameKind⟩

/-- A directory grows when a child of a new name is added. -/
theorem grows_append_child
    {own name : String}
    {children : List Tree}
    {index : NameIndex}
    (missing : index.find? name = none)
    (child : Tree) :
    Grows (directory own children index)
      (directory own (children ++ [child])
        (index.insert name children.length)) := by
  refine grows_directory fun other node isChild => ⟨node, ?_, .refl node⟩
  rw [child?_directory] at isChild ⊢
  obtain ⟨position, found, held⟩ := Option.bind_eq_some_iff.mp isChild
  have distinct : other ≠ name := by
    rintro rfl
    simp [missing] at found
  have inside := (List.getElem?_eq_some_iff.mp held).1
  rw [NameIndex.find?_insert_of_ne _ distinct, found, Option.bind_some,
    List.getElem?_append_left inside, held]

/-- A directory grows when a child grows in its place. -/
theorem grows_set_child
    {own : String}
    {children : List Tree}
    {index : NameIndex}
    {position : Nat}
    {child after : Tree}
    (held : children[position]? = some child)
    (grows : Grows child after) :
    Grows (directory own children index)
      (directory own (children.set position after) index) := by
  refine grows_directory fun name node isChild => ?_
  rw [child?_directory] at isChild ⊢
  obtain ⟨place, found, isNode⟩ := Option.bind_eq_some_iff.mp isChild
  rw [found, Option.bind_some]
  by_cases same : position = place
  · subst same
    obtain rfl : child = node := Option.some.inj (held.symm.trans isNode)
    have inside := (List.getElem?_eq_some_iff.mp held).1
    exact ⟨after, by simp [inside], grows⟩
  · exact ⟨node, by rw [List.getElem?_set_ne same, isNode], .refl node⟩

/-- A walk makes a tree grow if its action does. -/
theorem grows_walk
    (grows : ∀ node, Grows node (action node).1)
    (node : Tree)
    (names : List String) :
    Grows node (walk path action node names).1 := by
  fun_induction walk path action node names with
  | case1 node after answer acted => simpa [acted] using grows node
  | case2 own name names => exact .refl _
  | case3 own children index name names missing child answer walked
    hypothesis =>
      exact grows_append_child missing child
  | case4 own children index name names position found missing => exact .refl _
  | case5 own children index name names position found child held isFile =>
      exact .refl _
  | case6 own children index name names position found child held isDirectory
    after answer walked hypothesis =>
      rw [walked] at hypothesis
      exact grows_set_child held hypothesis

theorem grows_addFile (name : String) (node : Tree) :
    Grows node (addFile name node).1 := by
  cases node with
  | file own => exact .refl _
  | directory own children index =>
      rw [addFile]
      split
      · exact .refl _
      · rename_i missing
        exact grows_append_child missing (file name)

/-- A mutation makes a tree grow. -/
theorem grows_absorb (tree : Tree) (operation : Operation) :
    Grows tree (tree.absorb operation) := by
  cases operation with
  | makeDirectory path => exact grows_walk .refl tree _
  | createFile path =>
      simp only [absorb, apply, createFile]
      split
      · exact .refl tree
      · exact grows_walk (grows_addFile _) tree _

/-! ## Decided ways -/

/-- The way down names leads to a node, or a file is in the way. -/
def Decided (tree : Tree) (names : List String) : Prop :=
  (tree.descend? names).isSome = true ∨
    ∃ front own, front <+: names ∧ tree.descend? front = some (file own)

/-- What is decided stays decided when the tree grows. -/
theorem Decided.grows
    {before after : Tree}
    {names : List String}
    (decided : Decided before names)
    (grows : Grows before after) :
    Decided after names := by
  rcases decided with leads | ⟨front, own, isFront, blocked⟩
  · obtain ⟨node, found⟩ := Option.isSome_iff_exists.mp leads
    obtain ⟨grown, isGrown, -⟩ := grows names node found
    exact .inl (by rw [isGrown]; rfl)
  · obtain ⟨grown, isGrown, sameKind⟩ := grows front _ blocked
    cases grown with
    | file other => exact .inr ⟨front, other, isFront, isGrown⟩
    | directory _ _ _ => cases sameKind

@[simp] theorem decided_nil (tree : Tree) : Decided tree [] := .inl rfl

/-- From a file every way is decided. -/
@[simp] theorem decided_file (own : String) (names : List String) :
    Decided (file own) names :=
  .inr ⟨[], own, List.nil_prefix, descend?_nil _⟩

/-- From a directory a way is decided as it is from the child of its first
name. -/
theorem decided_cons_iff
    {own name : String}
    {children : List Tree}
    {index : NameIndex}
    {names : List String} :
    Decided (directory own children index) (name :: names) ↔
      ∃ child, (directory own children index).child? name = some child ∧
      Decided child names := by
  constructor
  · rintro (leads | ⟨front, blocker, isFront, blocked⟩)
    · rw [descend?_cons] at leads
      obtain ⟨node, found⟩ := Option.isSome_iff_exists.mp leads
      obtain ⟨child, isChild, below⟩ := Option.bind_eq_some_iff.mp found
      exact ⟨child, isChild, .inl (by rw [below]; rfl)⟩
    · cases front with
      | nil => simp at blocked
      | cons first front =>
          obtain ⟨rfl, isPrefix⟩ := List.cons_prefix_cons.mp isFront
          rw [descend?_cons] at blocked
          obtain ⟨child, isChild, below⟩ := Option.bind_eq_some_iff.mp blocked
          exact ⟨child, isChild, .inr ⟨front, blocker, isPrefix, below⟩⟩
  · rintro ⟨child, isChild, leads | ⟨front, blocker, isFront, blocked⟩⟩
    · exact .inl (by rw [descend?_cons, isChild]; exact leads)
    · exact .inr
        ⟨name :: front, blocker, List.cons_prefix_cons.mpr ⟨rfl, isFront⟩,
          by rw [descend?_cons, isChild]; exact blocked⟩

/-- A name that the index of a well-formed directory knows has a child. -/
theorem WellFormed.child_exists
    {own : String}
    {children : List Tree}
    {index : NameIndex}
    (wellFormed : WellFormed (Tree.directory own children index))
    {name : String}
    {position : Nat}
    (found : index.find? name = some position) :
    ∃ child, children[position]? = some child ∧ WellFormed child := by
  cases wellFormed with
  | directory _ distinct usable below =>
      have named := NameIndex.getElem?_of_find?_ofNames found
      rw [List.getElem?_map, Option.map_eq_some_iff] at named
      obtain ⟨child, held, -⟩ := named
      exact ⟨child, held, below child (List.mem_of_getElem? held)⟩

/-- After a walk the way is decided, if the action decides the rest of it. -/
theorem decided_walk
    {rest : List String}
    (decides : ∀ node, WellFormed node → Decided (action node).1 rest)
    {node : Tree}
    (wellFormed : WellFormed node)
    (names : List String) :
    Decided (walk path action node names).1 (names ++ rest) := by
  fun_induction walk path action node names with
  | case1 node after answer acted => simpa [acted] using decides node wellFormed
  | case2 own name names => exact decided_file own _
  | case3 own children index name names missing child answer walked
    hypothesis =>
      have below := hypothesis (wellFormed_emptyDirectory name)
      rw [walked] at below
      exact decided_cons_iff.mpr ⟨child, by simp [child?_directory], below⟩
  | case4 own children index name names position found missing =>
      obtain ⟨child, held, -⟩ := wellFormed.child_exists found
      rw [missing] at held
      cases held
  | case5 own children index name names position found child held isFile =>
      refine decided_cons_iff.mpr
        ⟨child, by simp [child?_directory, found, held], ?_⟩
      cases child with
      | file other => exact decided_file other _
      | directory _ _ _ => cases isFile
  | case6 own children index name names position found child held isDirectory
    after answer walked hypothesis =>
      obtain ⟨other, isOther, childWellFormed⟩ := wellFormed.child_exists found
      obtain rfl : child = other := Option.some.inj (held.symm.trans isOther)
      have below := hypothesis childWellFormed
      rw [walked] at below
      have inside := (List.getElem?_eq_some_iff.mp held).1
      exact decided_cons_iff.mpr
        ⟨after, by simp [child?_directory, found, inside], below⟩

/-- A walk along a decided way changes nothing, if its action changes nothing
where the rest of the way is decided. -/
theorem walk_of_decided
    {rest : List String}
    (idle : ∀ node, Decided node rest → (action node).1 = node)
    {node : Tree}
    {names : List String}
    (decided : Decided node (names ++ rest)) :
    (walk path action node names).1 = node := by
  fun_induction walk path action node names with
  | case1 node after answer acted => simpa [acted] using idle node decided
  | case2 own name names => rfl
  | case3 own children index name names missing child answer walked
    hypothesis =>
      obtain ⟨found, isChild, -⟩ := decided_cons_iff.mp decided
      simp [child?_directory, missing] at isChild
  | case4 own children index name names position found missing => rfl
  | case5 own children index name names position found child held isFile => rfl
  | case6 own children index name names position found child held isDirectory
    after answer walked hypothesis =>
      obtain ⟨other, isChild, below⟩ := decided_cons_iff.mp decided
      obtain rfl : child = other := by
        simpa [child?_directory, found, held] using isChild
      have same := hypothesis below
      rw [walked] at same
      rw [show after = child from same, set_of_getElem?_eq_some held]

/-! ## Mutations -/

/-- Adding a file decides its name. -/
theorem decided_addFile
    (name : String)
    {node : Tree}
    (wellFormed : WellFormed node) :
    Decided (addFile name node).1 [name] := by
  cases node with
  | file own => exact decided_file own _
  | directory own children index =>
      rw [addFile]
      split
      · rename_i position found
        obtain ⟨child, held, -⟩ := wellFormed.child_exists found
        exact decided_cons_iff.mpr
          ⟨child, by simp [child?_directory, found, held], decided_nil child⟩
      · exact decided_cons_iff.mpr
          ⟨file name, by simp [child?_directory], decided_nil (file name)⟩

/-- A file is not added where its name is decided. -/
theorem addFile_of_decided
    {name : String}
    {node : Tree}
    (decided : Decided node [name]) :
    (addFile name node).1 = node := by
  cases node with
  | file own => rfl
  | directory own children index =>
      obtain ⟨child, isChild, -⟩ := decided_cons_iff.mp decided
      obtain ⟨position, found, -⟩ := Option.bind_eq_some_iff.mp isChild
      have taken : index.find? name = some position := found
      simp [addFile, taken]

/-- A mutation decides its path. -/
theorem decided_absorb
    {tree : Tree}
    (wellFormed : WellFormed tree)
    (operation : Operation) :
    Decided (tree.absorb operation) (Path.components operation.path) := by
  cases operation with
  | makeDirectory path =>
      have way : Decided
          (walk path (fun node => (node, ())) tree (Path.components path)).1
          (Path.components path ++ []) :=
        decided_walk (fun node _ => decided_nil node) wellFormed _
      rwa [List.append_nil] at way
  | createFile path =>
      simp only [absorb, apply, createFile, Operation.path]
      cases split : Path.splitParent? path with
      | none =>
          have atRoot : Path.components path = [] := by
            cases components : Path.components path using List.reverseRecOn with
            | nil => rfl
            | append_singleton front last =>
                rw [Path.splitParent?, components,
                  Path.splitLast?_append_singleton] at split
                cases split
          rw [atRoot]
          exact decided_nil tree
      | some pair =>
          obtain ⟨parents, name⟩ := pair
          rw [components_of_splitParent? split]
          exact decided_walk (fun _ => decided_addFile name) wellFormed parents

/-- A mutation whose path is decided changes nothing. -/
theorem absorb_of_decided
    {tree : Tree}
    {operation : Operation}
    (decided : Decided tree (Path.components operation.path)) :
    tree.absorb operation = tree := by
  cases operation with
  | makeDirectory path =>
      have whole : Decided tree (Path.components path ++ []) := by
        rw [List.append_nil]
        exact decided
      exact walk_of_decided (fun _ _ => rfl) whole
  | createFile path =>
      simp only [absorb, apply, createFile]
      cases split : Path.splitParent? path with
      | none => rfl
      | some pair =>
          obtain ⟨parents, name⟩ := pair
          rw [Operation.path, components_of_splitParent? split] at decided
          exact walk_of_decided (fun _ => addFile_of_decided) decided

end Tree
end NameService
