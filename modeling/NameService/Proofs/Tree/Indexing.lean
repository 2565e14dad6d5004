import NameService.Proofs.Image.Validity
import NameService.Proofs.Tree.Growth

/-!
# Indices and lists of children

A directory keeps its children twice, in a list and in an index of their names.
Mutations add to both at any depth, and a tree that is read from an image is put
together by another way, but in every tree that either of them leaves behind the
two tell the same. So a child is found by its name where a scan of the list
would find it, and a tree has as many directories and files as entries in its
image.
-/

namespace NameService
namespace Tree

variable {tree node : Tree}

/-! ## Nodes -/

mutual

/-- The nodes of a tree in pre-order, each with all that is below it. -/
def nodes : Tree → List Tree
  | file name => [file name]
  | directory name children index =>
      directory name children index :: nodesAll children

/-- The nodes of the trees of a list. -/
def nodesAll : List Tree → List Tree
  | [] => []
  | node :: rest => nodes node ++ nodesAll rest

end

mutual

/-- All nodes of a well-formed tree are well-formed. -/
theorem WellFormed.of_mem_nodes :
    ∀ {tree node : Tree}, WellFormed tree → node ∈ tree.nodes → WellFormed node
  | .file name, node, wellFormed, present => by
      obtain rfl := List.mem_singleton.mp present
      exact wellFormed
  | .directory name children index, node, wellFormed, present => by
      rcases List.mem_cons.mp present with rfl | below
      · exact wellFormed
      · cases wellFormed with
        | directory _ _ _ childrenWellFormed =>
            exact of_mem_nodesAll childrenWellFormed below

theorem WellFormed.of_mem_nodesAll :
    ∀ {children : List Tree} {node : Tree},
      (∀ child ∈ children, WellFormed child) →
      node ∈ nodesAll children → WellFormed node
  | [], node, _, present => (List.not_mem_nil present).elim
  | child :: rest, node, wellFormed, present => by
      obtain ⟨childWellFormed, restWellFormed⟩ :=
        List.forall_mem_cons.mp wellFormed
      rcases List.mem_append.mp present with inChild | inRest
      · exact childWellFormed.of_mem_nodes inChild
      · exact of_mem_nodesAll restWellFormed inRest

end

/-! ## What an index tells -/

/-- What a node keeps of its children hangs together. -/
structure Indexed (node : Tree) : Prop where
  /-- No two children share a name. -/
  distinct : (node.children.map Tree.name).Nodup
  /-- Files have no children. -/
  childless : node.kind = .file → node.children = []
  /-- The names of children are not empty and have no separator. -/
  named : ∀ child ∈ node.children, child.name ≠ "" ∧
    Path.separator ∉ child.name.toList
  /-- The index tells for each name which child has it. -/
  placed : ∀ name position,
    node.position? name = some position ↔
      node.children[position]?.map Tree.name = some name
  /-- A child is found through the index as by a scan. -/
  scanned : ∀ name, node.child? name = node.children.find? fun child =>
    child.name == name

/-- The one item of a list that passes a test is found by it. -/
theorem find?_of_unique
    {items : List α}
    {test : α → Bool}
    {item : α}
    (present : item ∈ items)
    (passes : test item = true)
    (unique : ∀ other ∈ items, test other = true → other = item) :
    items.find? test = some item := by
  cases found : items.find? test with
  | none =>
      exact absurd passes
        (by simpa using List.find?_eq_none.mp found item present)
  | some other =>
      exact congrArg some
        (unique other (List.mem_of_find?_eq_some found) (List.find?_some found))

/-- The nodes of well-formed trees are indexed. -/
theorem WellFormed.indexed (wellFormed : WellFormed node) : Indexed node := by
  cases wellFormed with
  | file name =>
      exact ⟨.nil, fun _ => rfl, by simp, by simp [position?], fun _ => rfl⟩
  | @directory own children distinct usable below =>
      have placed (name : String) (position : Nat) :
          (NameIndex.ofNames (children.map Tree.name)).find? name =
            some position ↔
            children[position]?.map Tree.name = some name := by
        rw [NameIndex.find?_ofNames_eq_some_iff distinct, List.getElem?_map]
      refine ⟨distinct, (by rintro ⟨⟩), fun child present => ?_, placed,
        fun name => ?_⟩
      · exact Image.usableName_iff.mp (usable child present)
      · rw [child?_directory, children_directory]
        cases found :
          (NameIndex.ofNames (children.map Tree.name)).find? name with
        | none =>
            have missing := NameIndex.find?_ofNames_eq_none_iff.mp found
            symm
            rw [Option.bind_none, List.find?_eq_none]
            intro child present same
            exact missing
              (List.mem_map.mpr ⟨child, present, beq_iff_eq.mp same⟩)
        | some position =>
            have stands := (placed name position).mp found
            obtain ⟨child, held, rfl⟩ := Option.map_eq_some_iff.mp stands
            have present := List.mem_of_getElem? held
            symm
            rw [Option.bind_some, held]
            exact find?_of_unique present (beq_self_eq_true _)
              fun other isOther same =>
              List.inj_on_of_nodup_map distinct isOther present
                (beq_iff_eq.mp same)

/-! ## Counts -/

mutual

/-- A tree has an entry for each node, in the same order. -/
theorem map_entriesFrom (parent : Option Nat) (position : Nat) :
    ∀ tree : Tree, ((Image.entriesFrom parent position tree).map fun entry =>
      (entry.name, entry.kind)) = tree.nodes.map fun node =>
      (node.name, node.kind)
  | file name => rfl
  | directory name children index => by
      simp [Image.entriesFrom, nodes,
        map_entriesOfChildren position (position + 1) children]

theorem map_entriesOfChildren (parent next : Nat) :
    ∀ children : List Tree,
      ((Image.entriesOfChildren parent next children).map fun entry =>
      (entry.name, entry.kind)) = (nodesAll children).map fun node =>
        (node.name, node.kind)
  | [] => rfl
  | child :: rest => by
      simp [Image.entriesOfChildren, nodesAll,
        map_entriesFrom (some parent) next child,
        map_entriesOfChildren parent (next + child.size) rest]

end

mutual

/-- The directories of a tree are counted once each. -/
theorem directoryCount_eq :
    ∀ tree : Tree, tree.directoryCount = tree.nodes.countP fun node =>
      node.kind == .directory
  | file name => rfl
  | directory name children index => by
      simp [directoryCount, nodes, directoryCountAll_eq children]

theorem directoryCountAll_eq :
    ∀ children : List Tree,
      directoryCountAll children = (nodesAll children).countP fun node =>
        node.kind == .directory
  | [] => rfl
  | child :: rest => by
      simp [directoryCountAll, nodesAll, directoryCount_eq child,
        directoryCountAll_eq rest]

end

mutual

/-- The files of a tree are counted once each. -/
theorem fileCount_eq :
    ∀ tree : Tree, tree.fileCount = tree.nodes.countP fun node =>
      node.kind == .file
  | file name => rfl
  | directory name children index => by
      simp [fileCount, nodes, fileCountAll_eq children]

theorem fileCountAll_eq :
    ∀ children : List Tree,
      fileCountAll children = (nodesAll children).countP fun node =>
        node.kind == .file
  | [] => rfl
  | child :: rest => by
      simp [fileCountAll, nodesAll, fileCount_eq child, fileCountAll_eq rest]

end

/-- A tree has as many directories and files as its image has entries. -/
theorem counts_eq (tree : Tree) :
    tree.directoryCount + tree.fileCount = (Image.entries tree).length := by
  have otherwise : (fun node : Tree => node.kind == .file) =
      fun node => decide ¬(node.kind == .directory) = true := by
    funext node
    cases node <;> rfl
  have outlined := congrArg List.length (map_entriesFrom none 0 tree)
  rw [List.length_map, List.length_map] at outlined
  rw [directoryCount_eq, fileCount_eq, otherwise,
    ← List.length_eq_countP_add_countP, Image.entries, outlined]

/-! ## Runs -/

/-- What happens to the tree of a namespace. -/
inductive Change
  /-- A mutation is carried out, be it refused or not. -/
  | mutate (operation : Operation)
  /-- The tree is replaced by that of an image, unless the bytes are none. -/
  | load (content : List UInt8)

/-- The tree that a change leaves behind. -/
def change (tree : Tree) : Change → Tree
  | .mutate operation => tree.absorb operation
  | .load content =>
      match (Image.decode content).bind fun image =>
        Image.namespaceRoot image.root with
      | .ok root => root
      | .error _ => tree

/-- The tree that changes leave behind of an empty namespace. -/
def run (changes : List Change) : Tree := changes.foldl change root

/-- Changes keep a tree well-formed. -/
theorem WellFormed.change (wellFormed : WellFormed tree) (change : Change) :
    WellFormed (tree.change change) := by
  cases change with
  | mutate operation => exact wellFormed.absorb operation
  | load content =>
      rw [Tree.change]
      cases decoded : Image.decode content with
      | error cause => exact wellFormed
      | ok image =>
          obtain ⟨-, -, -, imageWellFormed, isDirectory, -⟩ :=
            Image.entries_of_decode decoded
          have isRoot : Image.namespaceRoot image.root = .ok image.root := by
            simp [Image.namespaceRoot, isFile, isDirectory]
          simp only [Except.bind, isRoot]
          exact imageWellFormed

/-- Whatever happens to a namespace leaves a well-formed tree. -/
theorem wellFormed_run (changes : List Change) : WellFormed (run changes) := by
  induction changes using List.reverseRecOn with
  | nil => exact wellFormed_root
  | append_singleton earlier last hypothesis =>
      rw [run, List.foldl_append]
      exact hypothesis.change last

/-- Whatever mutations are carried out and whatever images are loaded, the index
of every node tells what its list of children tells, and so each node is counted
once and has one entry in the image of the tree. -/
theorem run_indexed (changes : List Change) :
    (∀ node ∈ (run changes).nodes, Indexed node) ∧
    ((run changes).directoryCount =
        (run changes).nodes.countP fun node => node.kind == .directory) ∧
    ((run changes).fileCount = (run changes).nodes.countP fun node =>
      node.kind == .file) ∧
    ((Image.entries (run changes)).map fun entry => (entry.name, entry.kind)) =
      ((run changes).nodes.map fun node => (node.name, node.kind)) ∧
    (run changes).directoryCount + (run changes).fileCount =
      (Image.entries (run changes)).length :=
  ⟨fun _ present => ((wellFormed_run changes).of_mem_nodes present).indexed,
    directoryCount_eq _, fileCount_eq _, map_entriesFrom none 0 _, counts_eq _⟩

end Tree
end NameService
