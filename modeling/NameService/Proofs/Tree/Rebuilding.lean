import Mathlib.Data.List.TFAE
import Mathlib.Tactic.TFAE
import NameService.Proofs.Catalog.Retelling
import NameService.Proofs.Image.Codec
import NameService.Proofs.Image.Validity
import NameService.Proofs.Path
import NameService.Proofs.Tree.History
import NameService.Proofs.Tree.Kinds

/-!
# Trees that calls can build

A tree is built from an empty namespace by the calls for its nodes in pre-order,
each at the path of the names on its way. Paths lead over no blank name, so
calls make none, and a node with a blank name on its way is found at no path.
-/

namespace NameService
namespace Tree

/-! ## Calls for single nodes -/

/-- The mutation that makes a node of a kind. -/
def making : Kind → String → Operation
  | .directory => .makeDirectory
  | .file => .createFile

/-- Under whatever path, the mutation that makes a node of a kind at names
succeeds on a node and leaves another. -/
def Makes (names : List String) (node after : Tree) : Kind → Prop
  | .directory => ∀ path, ∃ made,
      walk path (fun node => (node, ())) node names = (after, .ok (made, ()))
  | .file => ∃ parents name, names = parents ++ [name] ∧ ∀ path, ∃ made,
      walk path (addFile name) node parents = (after, .ok (made, true))

variable {kind : Kind} {own name : String} {names : List String}
  {children : List Tree} {index : NameIndex} {node child after : Tree}

/-- What is made at the components of a path is made by the mutation of the
path. -/
theorem Makes.apply
    (makes : Makes names node after kind)
    {path : String}
    (isPath : Path.components path = names) :
    ∃ made, node.apply (making kind path) = (after, .ok made) := by
  cases kind with
  | directory =>
      obtain ⟨made, walked⟩ := makes path
      refine ⟨made, ?_⟩
      simp only [making, Tree.apply, makeDirectory, isPath, walked, Except.map]
  | file =>
      obtain ⟨parents, name, rfl, walks⟩ := makes
      obtain ⟨made, walked⟩ := walks path
      exact ⟨true, by
        simp only [making, Tree.apply, createFile,
          splitParent?_of_components isPath, walked, Except.map]⟩

/-- A node stays of its kind when something is made in it. -/
theorem Makes.kind_eq (makes : Makes names node after kind) :
    after.kind = node.kind := by
  cases kind with
  | directory =>
      obtain ⟨made, walked⟩ := makes ""
      have same : (walk "" (fun node => (node, ())) node names).1.kind =
          node.kind :=
        kind_walk (fun _ => rfl) node names
      rwa [walked] at same
  | file =>
      obtain ⟨parents, name, rfl, walks⟩ := makes
      obtain ⟨made, walked⟩ := walks ""
      have same : (walk "" (addFile name) node parents).1.kind = node.kind :=
        kind_walk (kind_addFile name) node parents
      rwa [walked] at same

/-- A node of a new name is made behind the children of a directory. -/
theorem makes_new (missing : index.find? name = none) (kind : Kind) :
    Makes [name] (directory own children index)
      (directory own (children ++ [leaf kind name])
        (index.insert name children.length)) kind := by
  cases kind with
  | directory => exact fun path => ⟨true, by simp only [walk, missing]; rfl⟩
  | file =>
      exact ⟨[], name, rfl,
        fun path => ⟨false, by simp only [walk, addFile, missing]; rfl⟩⟩

/-- What is made in a child of a directory is made in the directory below its
name. -/
theorem Makes.inChild
    (makes : Makes names child after kind)
    {position : Nat}
    (found : index.find? name = some position)
    (held : children[position]? = some child)
    (isDirectory : child.kind = .directory) :
    Makes (name :: names) (directory own children index)
      (directory own (children.set position after) index) kind := by
  have notFile : child.isFile = false := by
    rw [isFile, isDirectory]
    rfl
  cases kind with
  | directory =>
      intro path
      obtain ⟨made, walked⟩ := makes path
      exact ⟨made, by simp [walk, found, held, notFile, walked]⟩
  | file =>
      obtain ⟨parents, last, rfl, walks⟩ := makes
      refine ⟨name :: parents, last, rfl, fun path => ?_⟩
      obtain ⟨made, walked⟩ := walks path
      exact ⟨made, by simp [walk, found, held, notFile, walked]⟩

/-! ## Calls for whole trees -/

/-- A call for a node: its kind and the names on its way. -/
abbrev Call := Kind × List String

/-- Calls that are made one after the other turn a node into another. -/
inductive Builds : List Call → Tree → Tree → Prop
  | nil (node : Tree) : Builds [] node node
  | cons {kind : Kind} {names : List String} {rest : List Call}
    {node between after : Tree} (makes : Makes names node between kind)
      (behind : Builds rest between after) :
      Builds ((kind, names) :: rest) node after

theorem Builds.append
    {front back : List Call}
    {between : Tree}
    (first : Builds front node between)
    (second : Builds back between after) :
    Builds (front ++ back) node after := by
  induction first with
  | nil node => exact second
  | cons makes behind hypothesis => exact .cons makes (hypothesis second)

/-- A call below a name. -/
def under (name : String) (call : Call) : Call := (call.1, name :: call.2)

/-- What is built in a child of a directory is built in the directory below its
name. -/
theorem Builds.inChild
    {calls : List Call}
    (builds : Builds calls child after)
    {position : Nat}
    (found : index.find? name = some position)
    (held : children[position]? = some child)
    (isDirectory : child.kind = .directory) :
    Builds (calls.map (under name)) (directory own children index)
      (directory own (children.set position after) index) := by
  induction builds generalizing children with
  | nil child =>
      rw [set_of_getElem?_eq_some held]
      exact .nil _
  | cons makes behind hypothesis =>
      rename_i kind names rest child between after
      have inside := (List.getElem?_eq_some_iff.mp held).1
      have holds : (children.set position between)[position]? =
          some between := by simp [inside]
      have further := hypothesis holds (makes.kind_eq.trans isDirectory)
      rw [List.set_set] at further
      exact .cons (makes.inChild found held isDirectory) further

mutual

/-- The calls for everything below a node, in pre-order. -/
def calls : Tree → List Call
  | file _ => []
  | directory _ children _ => callsAll children

/-- The calls for the children of a node and everything below them. -/
def callsAll : List Tree → List Call
  | [] => []
  | child :: rest =>
      (child.kind, [child.name]) :: child.calls.map (under child.name) ++
        callsAll rest

end

/-- A directory of children. -/
def ofChildren (own : String) (children : List Tree) : Tree :=
  directory own children (.ofNames (children.map Tree.name))

/-- A node of a new name is made behind the children of a directory. -/
theorem makes_leaf
    (isNew : name ∉ children.map Tree.name)
    (own : String)
    (kind : Kind) :
    Makes [name] (ofChildren own children)
      (ofChildren own (children ++ [leaf kind name])) kind := by
  have grown :
      NameIndex.ofNames ((children ++ [leaf kind name]).map Tree.name) =
      (NameIndex.ofNames (children.map Tree.name)).insert name
        children.length := by
    rw [List.map_append, List.map_singleton, name_leaf,
      NameIndex.ofNames_append_singleton, List.length_map]
  rw [ofChildren, ofChildren, grown]
  exact makes_new (NameIndex.find?_ofNames_eq_none_iff.mpr isNew) kind

/-- What is built in the last child of a directory is built in the directory
below its name. -/
theorem Builds.inLast
    {calls : List Call}
    (builds : Builds calls child after)
    (isDirectory : child.kind = .directory)
    (sameName : after.name = child.name)
    (own : String)
    (front : List Tree) :
    Builds (calls.map (under child.name)) (ofChildren own (front ++ [child]))
      (ofChildren own (front ++ [after])) := by
  have sameNames : (front ++ [after]).map Tree.name =
      (front ++ [child]).map Tree.name := by
    simp [sameName]
  have found :
      (NameIndex.ofNames ((front ++ [child]).map Tree.name)).find? child.name =
      some front.length := by
    rw [List.map_append, List.map_singleton, NameIndex.ofNames_append_singleton,
      List.length_map, NameIndex.find?_insert_self]
  have built : Builds _ (directory own _ _) _ :=
    builds.inChild found List.getElem?_concat_length isDirectory
  rw [ofChildren, ofChildren, sameNames]
  simpa using built

mutual

/-- The calls for everything below a node build it from a node without
children. -/
theorem builds_calls {tree : Tree} (wellFormed : WellFormed tree) :
    Builds tree.calls (leaf tree.kind tree.name) tree := by
  cases tree with
  | file own => exact .nil _
  | directory own children index =>
      cases wellFormed with
      | directory _ distinct usable below =>
          exact builds_callsAll own [] below distinct

theorem builds_callsAll
    (own : String)
    (front : List Tree)
    {children : List Tree}
    (below : ∀ child ∈ children, WellFormed child)
    (distinct : ((front ++ children).map Tree.name).Nodup) :
    Builds (callsAll children) (ofChildren own front)
      (ofChildren own (front ++ children)) := by
  cases children with
  | nil =>
      rw [List.append_nil]
      exact .nil _
  | cons child rest =>
      obtain ⟨own_, others⟩ := List.forall_mem_cons.mp below
      have isNew : child.name ∉ front.map Tree.name := by
        rw [List.map_append, List.map_cons] at distinct
        exact fun present =>
          List.disjoint_of_nodup_append distinct present List.mem_cons_self
      have grown : Builds (child.calls.map (under child.name))
          (ofChildren own (front ++ [leaf child.kind child.name]))
          (ofChildren own (front ++ [child])) := by
        cases child with
        | file name => exact .nil _
        | directory name children index =>
            exact (builds_calls own_).inLast rfl rfl own front
      have behind :=
        builds_callsAll own (front ++ [child]) others (by simpa using distinct)
      rw [List.append_assoc, List.singleton_append] at behind
      exact (Builds.cons (makes_leaf isNew own child.kind) grown).append behind

end

/-! ## Names that calls make -/

/-- No name on the way to a node is blank. -/
def Nameable (tree : Tree) : Prop :=
  ∀ names node, tree.descend? names = some node → ∀ name ∈ names,
    Text.allBlank name.toList = false

variable {tree : Tree}

theorem WellFormed.child?_of_mem
    (wellFormed : WellFormed (Tree.directory own children index))
    (present : child ∈ children) :
    (Tree.directory own children index).child? child.name = some child := by
  cases wellFormed with
  | directory _ distinct usable below =>
      have named : child.name ∈ children.map Tree.name :=
        List.mem_map_of_mem present
      cases found :
        (NameIndex.ofNames (children.map Tree.name)).find? child.name with
      | none =>
          exact absurd named (NameIndex.find?_ofNames_eq_none_iff.mp found)
      | some position =>
          have same := NameIndex.getElem?_of_find?_ofNames found
          rw [List.getElem?_map, Option.map_eq_some_iff] at same
          obtain ⟨other, held, sameName⟩ := same
          rw [child?_directory, found]
          have isChild : other = child :=
            List.inj_on_of_nodup_map distinct (List.mem_of_getElem? held)
              present sameName
          exact isChild ▸ held

/-- A node has the last name on its way, and all names on it are usable. -/
theorem WellFormed.named_of_descend?
    (wellFormed : WellFormed tree)
    (found : tree.descend? names = some node) :
    node.name = names.getLast?.getD tree.name ∧
      ∀ name ∈ names, Image.usableName name = true := by
  induction names generalizing tree with
  | nil =>
      obtain rfl : tree = node := by simpa using found
      simp
  | cons name rest hypothesis =>
      rw [descend?_cons] at found
      obtain ⟨child, isChild, behind⟩ := Option.bind_eq_some_iff.mp found
      obtain ⟨childWellFormed, rfl⟩ := wellFormed.child isChild
      obtain ⟨last, usable⟩ := hypothesis childWellFormed behind
      refine ⟨?_, List.forall_mem_cons.mpr ⟨?_, usable⟩⟩
      · rw [last, List.getLast?_cons]
        rfl
      · cases wellFormed with
        | file own => cases isChild
        | directory own distinct usable below =>
            obtain ⟨position, -, held⟩ := Option.bind_eq_some_iff.mp isChild
            exact usable child (List.mem_of_getElem? held)

theorem mem_callsAll {call : Call} :
    call ∈ callsAll children ↔ ∃ child ∈ children,
      call = (child.kind, [child.name]) ∨
        ∃ inner ∈ child.calls, under child.name inner = call := by
  induction children with
  | nil => simp [callsAll]
  | cons child rest hypothesis =>
      rw [callsAll, List.cons_append, List.mem_cons, List.mem_append,
        List.mem_map, hypothesis]
      simp only [List.mem_cons, exists_eq_or_imp, or_assoc]

/-- The calls for a tree name nodes of it. -/
theorem WellFormed.descend?_of_mem_calls
    (wellFormed : WellFormed tree)
    {call : Call}
    (present : call ∈ tree.calls) :
    ∃ node, tree.descend? call.2 = some node := by
  induction wellFormed generalizing call with
  | file own => cases present
  | directory own distinct usable below hypothesis =>
      rename_i children
      have wellFormed := WellFormed.directory own distinct usable below
      obtain ⟨child, isChild, rfl | ⟨inner, inChild, rfl⟩⟩ :=
        mem_callsAll.mp present
      · exact ⟨child, by simp [wellFormed.child?_of_mem isChild]⟩
      · obtain ⟨node, found⟩ := hypothesis child isChild inChild
        exact ⟨node,
          by simpa [under, wellFormed.child?_of_mem isChild] using found⟩

/-- Calls at paths of names without blank ones are mutations that succeed. -/
theorem Builds.applyAll
    {calls : List Call}
    (builds : Builds calls node after)
    (named : ∀ call ∈ calls, Path.components (Path.joined call.2) = call.2) :
    node.applyAll (calls.map fun call => making call.1 (Path.joined call.2)) =
      .ok after := by
  induction builds with
  | nil node => rfl
  | cons makes behind hypothesis =>
      obtain ⟨isPath, others⟩ := List.forall_mem_cons.mp named
      obtain ⟨made, applied⟩ := makes.apply isPath
      rw [List.map_cons, Tree.applyAll, applied]
      exact hypothesis others

theorem components_joined_of_usable
    (usable : ∀ name ∈ names, Image.usableName name = true) :
    Path.components (Path.joined names) =
      names.filter fun name => !Text.allBlank name.toList :=
  Path.components_joined fun name present =>
    (Image.usableName_iff.mp (usable name present)).2

/-- The names on the way to a node lead to it as a path if none of them is
blank. -/
theorem Nameable.components_joined
    (nameable : Nameable tree)
    (wellFormed : WellFormed tree)
    (found : tree.descend? names = some node) :
    Path.components (Path.joined names) = names := by
  rw [components_joined_of_usable (wellFormed.named_of_descend? found).2,
    List.filter_eq_self.mpr fun name present => by
      simp [nameable names node found name present]]

/-- A namespace without blank names is built by mutations that all succeed. -/
theorem Nameable.exists_operations
    (nameable : Nameable tree)
    (wellFormed : WellFormed tree)
    (isDirectory : tree.kind = .directory)
    (isRoot : tree.name = rootName) :
    ∃ operations, root.applyAll operations = .ok tree := by
  have builds := builds_calls wellFormed
  rw [isDirectory, isRoot] at builds
  refine ⟨_, Builds.applyAll builds fun call present => ?_⟩
  obtain ⟨node, found⟩ := wellFormed.descend?_of_mem_calls present
  exact nameable.components_joined wellFormed found

theorem nameable_root : Nameable root := by
  intro names node found name present
  cases names with
  | nil => cases present
  | cons first rest => cases found

/-- Filling in directories adds nothing off the way. -/
theorem prefix_of_withDirectories
    {kinds : List String → Option Kind}
    {others : List String}
    (stands : withDirectories kinds names others ≠ none) :
    kinds others ≠ none ∨ others <+: names := by
  rw [withDirectories] at stands
  split at stands
  · rename_i isNew
    exact .inr isNew.1
  · exact .inl stands

/-- What a mutation adds lies on the way of its path. -/
theorem prefix_of_apply
    (wellFormed : WellFormed tree)
    (isDirectory : tree.kind = .directory)
    {operation : Operation}
    {made : Bool}
    (applied : tree.apply operation = (after, .ok made))
    (stands : after.kindAt? names ≠ none) :
    tree.kindAt? names ≠ none ∨ names <+: Path.components operation.path := by
  have isAfter : (tree.apply operation).1 = after := congrArg Prod.fst applied
  have answer : (tree.apply operation).2 = .ok made := congrArg Prod.snd applied
  rw [← isAfter] at stands
  cases operation with
  | makeDirectory path =>
      have makes := makesDirectories_makeDirectory wellFormed isDirectory path
      have kinds : (tree.apply (.makeDirectory path)).1.kindAt? = _ :=
        makes.kinds made answer
      rw [kinds] at stands
      exact prefix_of_withDirectories stands
  | createFile path =>
      have creates := createsFile_createFile wellFormed isDirectory path
      rcases List.eq_nil_or_concat' (Path.components path) with
        atRoot | ⟨parents, name, isSplit⟩
      · have unchanged : tree.apply (.createFile path) = (tree, .ok false) :=
          creates.root atRoot
        rw [unchanged] at stands
        exact .inl stands
      · have kinds : (tree.apply (.createFile path)).1.kindAt? = _ :=
          creates.kinds parents name made isSplit answer
        have onWay
            (others : withDirectories tree.kindAt? parents names ≠ none) :
            tree.kindAt? names ≠ none ∨ names <+: Path.components path := by
          rw [isSplit]
          exact (prefix_of_withDirectories others).imp_right fun isPrefix =>
            isPrefix.trans (List.prefix_append _ _)
        rw [kinds] at stands
        split at stands
        · by_cases whole : names = Path.components path
          · exact .inr (whole ▸ List.prefix_rfl)
          · rw [Function.update_of_ne whole] at stands
            exact onWay stands
        · exact onWay stands

/-- A mutation that succeeds makes no blank names. -/
theorem Nameable.apply
    (nameable : Nameable tree)
    (wellFormed : WellFormed tree)
    (isDirectory : tree.kind = .directory)
    {operation : Operation}
    {made : Bool}
    (applied : tree.apply operation = (after, .ok made)) :
    Nameable after := by
  intro names node found name present
  have stands : after.kindAt? names ≠ none := by simp [kindAt?, found]
  rcases prefix_of_apply wellFormed isDirectory applied stands with
    before | onWay
  · obtain ⟨old, isOld⟩ :=
      Option.ne_none_iff_exists'.mp (mt kindAt?_eq_none_iff.mpr before)
    exact nameable names old isOld name present
  · exact Path.not_blank_of_mem_components (onWay.subset present)

/-- Mutations that all succeed make no blank names. -/
theorem Nameable.applyAll
    {operations : List Operation}
    (nameable : Nameable tree)
    (wellFormed : WellFormed tree)
    (isDirectory : tree.kind = .directory)
    (applied : tree.applyAll operations = .ok after) :
    Nameable after := by
  induction operations generalizing tree with
  | nil =>
      obtain rfl := Except.ok.inj applied
      exact nameable
  | cons operation rest hypothesis =>
      rw [Tree.applyAll] at applied
      split at applied
      · rename_i between made isApplied
        have isBetween : tree.absorb operation = between :=
          congrArg Prod.fst isApplied
        exact hypothesis (nameable.apply wellFormed isDirectory isApplied)
          (isBetween ▸ wellFormed.absorb operation)
          (isBetween ▸ (kind_absorb tree operation).trans isDirectory) applied
      · cases applied

/-- If every node is found at the path of its names, none of them is blank. -/
theorem nameable_of_find?
    (wellFormed : WellFormed tree)
    (isRoot : tree.name = rootName)
    (finds : ∀ names node, tree.descend? names = some node →
      tree.find? (Path.joined names) = some node) :
    Nameable tree := by
  intro names node found name present
  by_contra blank
  -- A node with a blank name is looked for at the names in front of it, which
  -- are another's.
  obtain ⟨front, rest, rfl⟩ := List.append_of_mem present
  rw [List.append_cons, descend?_append] at found
  obtain ⟨stray, isStray, -⟩ := Option.bind_eq_some_iff.mp found
  obtain ⟨strayName, usable⟩ := wellFormed.named_of_descend? isStray
  have sought := finds _ _ isStray
  rw [find?, components_joined_of_usable usable] at sought
  obtain ⟨foundName, -⟩ := wellFormed.named_of_descend? sought
  have lastBlank : stray.name = name := by simpa using strayName
  rw [lastBlank] at foundName
  cases last :
    ((front ++ [name]).filter fun name =>
      !Text.allBlank name.toList).getLast? with
  | none =>
      rw [last, Option.getD_none, isRoot] at foundName
      rw [foundName] at blank
      exact blank (by decide)
  | some other =>
      rw [last, Option.getD_some] at foundName
      have notBlank := (List.mem_filter.mp (List.mem_of_getLast? last)).2
      rw [← foundName] at notBlank
      exact blank (by simpa using notBlank)

end Tree

namespace Image

/-- A decoded image holds a tree that mutations build from the empty namespace
exactly if each of its nodes is found at the path of the names on its way, and
exactly if none of these names is blank. -/
theorem built_iff_found_iff_noBlank_of_decode
    {content : List UInt8}
    {image : Image}
    (decoded : decode content = .ok image) :
    List.TFAE
      [∃ operations, Tree.root.applyAll operations = .ok image.root,
        ∀ names node, image.root.descend? names = some node →
          image.root.find? (Path.joined names) = some node,
        ∀ names node, image.root.descend? names = some node →
          ∀ name ∈ names, Text.allBlank name.toList = false] := by
  obtain ⟨-, -, -, wellFormed, isDirectory, isRoot, -⟩ :=
    entries_of_decode decoded
  tfae_have 1 → 3 := fun ⟨operations, applied⟩ =>
    Tree.nameable_root.applyAll Tree.wellFormed_root rfl applied
  tfae_have 3 → 1 := fun nameable =>
    Tree.Nameable.exists_operations nameable wellFormed isDirectory isRoot
  tfae_have 3 → 2 := fun nameable names node found => by
    rw [Tree.find?, Tree.Nameable.components_joined nameable wellFormed found,
      found]
  tfae_have 2 → 3 := Tree.nameable_of_find? wellFormed isRoot
  tfae_finish

/-- A namespace with a directory whose name is a blank, and a file in it. -/
def strayTree : Tree :=
  Tree.ofChildren Tree.rootName [Tree.ofChildren " " [.file "f"]]

theorem wellFormed_strayTree : strayTree.WellFormed := by
  refine .directory _ (by decide) (by decide) fun child present => ?_
  obtain rfl := List.mem_singleton.mp present
  refine .directory _ (by decide) (by decide) fun child present => ?_
  obtain rfl := List.mem_singleton.mp present
  exact .file "f"

theorem decode_stray : decode (encode 1 strayTree) = .ok ⟨1, strayTree⟩ :=
  decode_encode (by decide) wellFormed_strayTree rfl rfl (by decide +kernel)

theorem found_of_history_and_blank_unbuilt :
    (∀ names node,
      (Tree.ofHistory [.createFile "/a/f", .makeDirectory "/b"] 2).descend?
        names =
        some node →
      (Tree.ofHistory [.createFile "/a/f", .makeDirectory "/b"] 2).find?
        (Path.joined names) =
        some node) ∧
    ¬ ∃ operations, Tree.root.applyAll operations = .ok strayTree := by
  constructor
  · have decoded :
        decode (encode 2
            (Tree.ofHistory [.createFile "/a/f", .makeDirectory "/b"] 2)) =
        .ok ⟨2, Tree.ofHistory [.createFile "/a/f", .makeDirectory "/b"] 2⟩ :=
      decode_encode (by decide) (Tree.wellFormed_ofHistory _ _)
        (Tree.kind_ofHistory _ _) (Tree.name_ofHistory _ _) (by decide +kernel)
    have finds := (built_iff_found_iff_noBlank_of_decode decoded).out 0 1
    exact finds.mp ⟨[.createFile "/a/f", .makeDirectory "/b"], rfl⟩
  · have unbuilt := (built_iff_found_iff_noBlank_of_decode decode_stray).out 0 2
    intro built
    exact absurd (unbuilt.mp built [" "] _ rfl " " (by simp)) (by decide)

/-- An image with a blank name is decoded. No mutations build it, and a path of
the name leads to another node. -/
theorem decode_blankName_unbuilt :
    decode (encode 1 strayTree) = .ok ⟨1, strayTree⟩ ∧
      (¬ ∃ operations, Tree.root.applyAll operations = .ok strayTree) ∧
      strayTree.descend? [" "] = some (Tree.ofChildren " " [.file "f"]) ∧
      strayTree.find? " " = some strayTree ∧
      strayTree.find? " /f" = none := by
  refine ⟨decode_stray, ?_, rfl, rfl, rfl⟩
  rintro ⟨operations, applied⟩
  have nameable := Tree.nameable_root.applyAll Tree.wellFormed_root rfl applied
  exact absurd (nameable [" "] _ rfl " " (by simp)) (by decide)

end Image
end NameService
