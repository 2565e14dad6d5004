import Mathlib.Data.List.Induction
import NameService.Image
import NameService.Proofs.Path
import NameService.Proofs.Tree.Walk

/-!
# Well-formed trees

In a well-formed tree the index of every directory tells the positions of its
children, no two children of a directory share a name, and every name can stand
in an image. The empty namespace is well-formed, and mutations keep it so.
-/

namespace NameService

/-! ## Indices of names -/

namespace NameIndex

/-- The index of names at their positions. -/
def ofNames (names : List String) : NameIndex :=
  names.zipIdx.foldl (fun index entry => index.insert entry.1 entry.2) .empty

@[simp] theorem ofNames_nil : ofNames [] = .empty := rfl

@[simp] theorem ofNames_append_singleton (names : List String) (name : String) :
    ofNames (names ++ [name]) = (ofNames names).insert name names.length := by
  simp [ofNames, List.zipIdx_append]

/-- A name is found where it stands. -/
theorem getElem?_of_find?_ofNames
    {names : List String}
    {name : String}
    {position : Nat}
    (found : (ofNames names).find? name = some position) :
    names[position]? = some name := by
  induction names using List.reverseRecOn with
  | nil => simp at found
  | append_singleton names last hypothesis =>
      rw [ofNames_append_singleton, find?_insert] at found
      split at found
      · rename_i same
        obtain rfl := Option.some.inj found
        simp [same]
      · have inside := (List.getElem?_eq_some_iff.mp (hypothesis found)).1
        rw [List.getElem?_append_left inside]
        exact hypothesis found

/-- A name that is not found stands nowhere. -/
theorem find?_ofNames_eq_none_iff {names : List String} {name : String} :
    (ofNames names).find? name = none ↔ name ∉ names := by
  induction names using List.reverseRecOn with
  | nil => simp
  | append_singleton names last hypothesis =>
      rw [ofNames_append_singleton, find?_insert]
      split
      · rename_i same
        simp [same]
      · rename_i other
        simp [hypothesis, other]

/-- If no name stands twice, it is found exactly where it stands. -/
theorem find?_ofNames_eq_some_iff
    {names : List String}
    (distinct : names.Nodup)
    {name : String}
    {position : Nat} :
    (ofNames names).find? name = some position ↔
      names[position]? = some name := by
  constructor
  · exact getElem?_of_find?_ofNames
  · intro stands
    cases found : (ofNames names).find? name with
    | none =>
        exact absurd (List.mem_of_getElem? stands)
          (find?_ofNames_eq_none_iff.mp found)
    | some other =>
        have inside := (List.getElem?_eq_some_iff.mp stands).1
        have same := stands.trans (getElem?_of_find?_ofNames found).symm
        exact congrArg some ((List.getElem?_inj inside distinct).mp same).symm

end NameIndex

/-! ## Components of paths -/

/-- Every component of a path can stand in an image. -/
theorem Path.usableName_of_mem_components
    {path name : String}
    (present : name ∈ Path.components path) :
    Image.usableName name = true := by
  obtain ⟨notBlank, whole⟩ := Path.clean_of_mem_components present
  have named : name ≠ "" := by
    rintro rfl
    exact notBlank rfl
  simp [Image.usableName, named, whole]

namespace Tree

/-- The index of every directory tells the positions of its children, whose
names are distinct and usable. -/
inductive WellFormed : Tree → Prop
  | file (name : String) : WellFormed (.file name)
  | directory (name : String) {children : List Tree}
      (distinct : (children.map Tree.name).Nodup)
      (usable : ∀ child ∈ children, Image.usableName child.name = true)
      (below : ∀ child ∈ children, WellFormed child) :
      WellFormed (.directory name children (.ofNames (children.map Tree.name)))

theorem wellFormed_emptyDirectory (name : String) :
    WellFormed (emptyDirectory name) :=
  .directory name (show (([] : List Tree).map Tree.name).Nodup from .nil)
    (fun _ present => (List.not_mem_nil present).elim)
    (fun _ present => (List.not_mem_nil present).elim)

theorem wellFormed_root : WellFormed root := wellFormed_emptyDirectory rootName

/-- A child of a new, usable name may be added behind the others. -/
theorem WellFormed.append_child
    {own : String}
    {children : List Tree}
    {index : NameIndex}
    (wellFormed : WellFormed (Tree.directory own children index))
    {child : Tree}
    (missing : index.find? child.name = none)
    (usable : Image.usableName child.name = true)
    (childWellFormed : WellFormed child) :
    WellFormed (Tree.directory own (children ++ [child])
      (index.insert child.name children.length)) := by
  cases wellFormed with
  | directory _ distinct allUsable below =>
      have isNew := NameIndex.find?_ofNames_eq_none_iff.mp missing
      have grown :=
        NameIndex.ofNames_append_singleton (children.map Tree.name) child.name
      rw [List.length_map] at grown
      rw [← grown, ← List.map_singleton (f := Tree.name), ← List.map_append]
      refine .directory own ?_ ?_ ?_
      · rw [List.map_append]
        refine List.nodup_append.mpr ⟨distinct, List.pairwise_singleton _ _, ?_⟩
        intro other present last isLast same
        rw [List.map_singleton, List.mem_singleton] at isLast
        exact isNew (isLast ▸ same ▸ present)
      · exact List.forall_mem_append.mpr ⟨allUsable, by simpa using usable⟩
      · exact List.forall_mem_append.mpr ⟨below, by simpa using childWellFormed⟩

/-- A child may be replaced by one of its name. -/
theorem WellFormed.set_child
    {own : String}
    {children : List Tree}
    {index : NameIndex}
    (wellFormed : WellFormed (Tree.directory own children index))
    {position : Nat}
    {child after : Tree}
    (held : children[position]? = some child)
    (sameName : after.name = child.name)
    (afterWellFormed : WellFormed after) :
    WellFormed (Tree.directory own (children.set position after) index) := by
  cases wellFormed with
  | directory _ distinct usable below =>
      have sameNames : (children.set position after).map Tree.name =
          children.map Tree.name := by
        have inNames : (children.map Tree.name)[position]? =
            some after.name := by
          simp [held, sameName]
        rw [List.map_set]
        obtain ⟨inside, isName⟩ := List.getElem?_eq_some_iff.mp inNames
        rw [← isName]
        exact List.set_getElem_self inside
      have childUsable := usable child (List.mem_of_getElem? held)
      rw [← sameNames]
      refine .directory own (sameNames ▸ distinct) ?_ ?_
      all_goals
        intro other present
        rcases List.mem_or_eq_of_mem_set present with old | rfl
      · exact usable other old
      · exact sameName ▸ childUsable
      · exact below other old
      · exact afterWellFormed

/-- Walking keeps a tree well-formed if the action does. -/
theorem WellFormed.walk
    {α : Type}
    {path : String}
    {action : Tree → Tree × α}
    (keeps : ∀ node, WellFormed node → WellFormed (action node).1)
    (keepsName : ∀ node, (action node).1.name = node.name)
    {node : Tree}
    (wellFormed : WellFormed node)
    {names : List String}
    (usable : ∀ name ∈ names, Image.usableName name = true) :
    WellFormed (walk path action node names).1 := by
  fun_induction Tree.walk path action node names with
  | case1 node after answer acted => simpa [acted] using keeps node wellFormed
  | case2 own name names => exact wellFormed
  | case3 own children index name names missing child answer walked
    hypothesis =>
      obtain ⟨nameUsable, namesUsable⟩ := List.forall_mem_cons.mp usable
      have made := hypothesis (wellFormed_emptyDirectory name) namesUsable
      have sameName :
          (Tree.walk path action (emptyDirectory name) names).1.name = name :=
        name_walk keepsName _ names
      rw [walked] at made sameName
      have named : child.name = name := sameName
      subst named
      exact wellFormed.append_child missing nameUsable made
  | case4 own children index name names position found missing =>
      exact wellFormed
  | case5 own children index name names position found child held isFile =>
      exact wellFormed
  | case6 own children index name names position found child held isDirectory
    after answer walked hypothesis =>
      have childWellFormed : WellFormed child := by
        cases wellFormed with
        | directory _ _ _ below => exact below child (List.mem_of_getElem? held)
      have walkedWellFormed :=
        hypothesis childWellFormed (List.forall_mem_cons.mp usable).2
      have sameName : (Tree.walk path action child names).1.name = child.name :=
        name_walk keepsName child names
      rw [walked] at walkedWellFormed sameName
      exact wellFormed.set_child held sameName walkedWellFormed

theorem WellFormed.addFile
    {node : Tree}
    (wellFormed : WellFormed node)
    {name : String}
    (usable : Image.usableName name = true) :
    WellFormed (addFile name node).1 := by
  cases node with
  | file own => exact wellFormed
  | directory own children index =>
      rw [Tree.addFile]
      split
      · exact wellFormed
      · rename_i missing
        exact wellFormed.append_child missing usable (.file name)

/-- The parents and the name of an entry are components of its path. -/
theorem components_of_splitParent?
    {path name : String}
    {parents : List String}
    (split : Path.splitParent? path = some (parents, name)) :
    Path.components path = parents ++ [name] := by
  have general : ∀ names : List String,
      Path.splitLast? names = some (parents, name) →
      names = parents ++ [name] := by
    intro names isSplit
    induction names using List.reverseRecOn with
    | nil => simp at isSplit
    | append_singleton front last _ =>
        rw [Path.splitLast?_append_singleton] at isSplit
        obtain ⟨rfl, rfl⟩ := Prod.mk.inj (Option.some.inj isSplit)
        rfl
  exact general _ split

/-- Mutations keep a tree well-formed. -/
theorem WellFormed.absorb
    {tree : Tree}
    (wellFormed : WellFormed tree)
    (operation : Operation) :
    WellFormed (tree.absorb operation) := by
  cases operation with
  | makeDirectory path =>
      exact wellFormed.walk (fun _ kept => kept) (fun _ => rfl)
        fun _ => Path.usableName_of_mem_components
  | createFile path =>
      simp only [Tree.absorb, apply, createFile]
      cases split : Path.splitParent? path with
      | none => exact wellFormed
      | some pair =>
          obtain ⟨parents, name⟩ := pair
          have usable : ∀ other ∈ parents ++ [name],
              Image.usableName other = true := by
            rw [← components_of_splitParent? split]
            exact fun _ => Path.usableName_of_mem_components
          obtain ⟨parentsUsable, nameUsable⟩ := List.forall_mem_append.mp usable
          exact wellFormed.walk
            (fun _ kept => kept.addFile (nameUsable name List.mem_cons_self))
            (name_addFile name) parentsUsable

end Tree
end NameService
