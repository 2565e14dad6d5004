import Mathlib.Data.List.Nodup
import Mathlib.Data.Option.Basic
import NameService.Proofs.Image.Codec

/-!
# The lists of entries that are images

A list of entries is put together exactly if it is an image: the root directory
first, and behind it entries with an earlier directory as their parent, a usable
name, and no sibling of that name. The order is free otherwise. Read from the
last one on, the entries behind a position leave trees that wait for parents in
front of it; each entry stands in one of them.
-/

namespace NameService
namespace Image

/-! ## Images and the trees they depict -/

/-- What makes a list of entries an image. -/
structure Valid (entries : List Entry) : Prop where
  /-- The first entry is the root directory. -/
  root : entries[0]? = some ⟨none, Tree.rootName, .directory⟩
  /-- Every other entry has an earlier directory as its parent, and a name that
  is not empty and has no slash. -/
  below : ∀ {position : Nat} {entry : Entry}, position ≠ 0 →
    entries[position]? = some entry →
    (∃ (parent : Nat) (holder : Entry), entry.parent = some parent ∧
      parent < position ∧
      entries[parent]? = some holder ∧ holder.kind = .directory) ∧
    entry.name ≠ "" ∧ '/' ∉ entry.name.toList
  /-- No two entries have the same parent and the same name. -/
  distinct : ∀ {position other : Nat} {entry sibling : Entry},
    position ≠ other →
    entries[position]? = some entry → entries[other]? = some sibling →
    entry.parent = sibling.parent → entry.name ≠ sibling.name

/-- The parent of the entry at a position. -/
def parentAt (entries : List Entry) (position : Nat) : Option Nat :=
  entries[position]?.bind Entry.parent

/-- The positions behind a position whose entries have it as their parent, in
order. -/
def childrenAt (entries : List Entry) (position : Nat) : List Nat :=
  (List.range' (position + 1) (entries.length - (position + 1))).filter
    fun later =>
    parentAt entries later == some position

mutual

/-- A tree shows the entry at a position: its node has the name and the kind of
the entry, and its children show the children of the entry in their order. The
list holds the positions of the nodes in pre-order. -/
inductive Depicts (entries : List Entry) : Nat → Tree → List Nat → Prop
  | node {position : Nat} {entry : Entry} {tree : Tree} {numbers : List Nat}
      (stands : entries[position]? = some entry)
      (sameName : tree.name = entry.name)
      (sameKind : tree.kind = entry.kind)
      (children :
        DepictsAll entries (childrenAt entries position) tree.children
          numbers) :
      Depicts entries position tree (position :: numbers)

/-- The trees of a list show the entries at the positions of another one. -/
inductive DepictsAll (entries : List Entry) :
    List Nat → List Tree → List Nat → Prop
  | nil : DepictsAll entries [] [] []
  | cons {position : Nat} {positions : List Nat} {tree : Tree}
    {trees : List Tree} {numbers others : List Nat}
      (first : Depicts entries position tree numbers)
      (rest : DepictsAll entries positions trees others) :
      DepictsAll entries (position :: positions) (tree :: trees)
        (numbers ++ others)

end

/-- A tree shows every entry of a list at one node. -/
def Pictures (entries : List Entry) (tree : Tree) : Prop :=
  ∃ numbers : List Nat,
    Depicts entries 0 tree numbers ∧ numbers.Perm (List.range entries.length)

mutual

/-- Every node of a tree has its position. -/
theorem Depicts.length_eq {entries : List Entry} :
    ∀ {position : Nat} {tree : Tree} {numbers : List Nat},
      Depicts entries position tree numbers → numbers.length = tree.size
  | _, .file _, _, .node _ _ _ children => by
      simpa [Tree.size, Tree.sizeAll] using children.length_eq
  | _, .directory _ _ _, _, .node _ _ _ children => by
      simpa [Tree.size] using children.length_eq

theorem DepictsAll.length_eq {entries : List Entry} :
    ∀ {positions : List Nat} {trees : List Tree} {numbers : List Nat},
      DepictsAll entries positions trees numbers →
        numbers.length = Tree.sizeAll trees
  | _, _, _, .nil => rfl
  | _, _, _, .cons first rest => by
      simp [Tree.sizeAll, first.length_eq, rest.length_eq]

end

theorem Pictures.size_eq
    {entries : List Entry}
    {tree : Tree}
    (pictures : Pictures entries tree) :
    tree.size = entries.length := by
  obtain ⟨numbers, depicts, all⟩ := pictures
  rw [← depicts.length_eq, all.length_eq, List.length_range]

/-! ## Parents that take their children -/

/-- A directory refuses children that share a name. -/
theorem pushAll_repeated
    {own : String}
    {front back : List Tree}
    (distinct : (front.map Tree.name).Nodup)
    (repeated : ¬ ((front ++ back).map Tree.name).Nodup) :
    ∃ cause,
      (Tree.directory own front (.ofNames (front.map Tree.name))).pushAll back =
      .error cause := by
  induction back generalizing front with
  | nil => exact absurd (by simpa using distinct) repeated
  | cons child back hypothesis =>
      cases found :
        (NameIndex.ofNames (front.map Tree.name)).find? child.name with
      | some position => exact ⟨_, by rw [Tree.pushAll, Tree.push, found]; rfl⟩
      | none =>
          have isNew := NameIndex.find?_ofNames_eq_none_iff.mp found
          have grown : ((front ++ [child]).map Tree.name).Nodup := by
            rw [List.map_append, List.map_singleton]
            exact List.nodup_append.mpr
              ⟨distinct, List.pairwise_singleton _ _, by
              rintro _ present _ isLast rfl
              exact isNew (List.mem_singleton.mp isLast ▸ present)⟩
          have refused := hypothesis grown (by simpa using repeated)
          rw [Tree.pushAll, Tree.push, found]
          simpa [bind, Except.bind] using refused

/-- A new node takes children if it is a directory and their names are distinct;
it takes none of them otherwise. -/
theorem pushAll_leaf_cases
    (kind : Kind)
    (name : String)
    (children : List Tree) :
    ((children ≠ [] → kind = .directory) ∧ (children.map Tree.name).Nodup ∧
      ∃ tree : Tree, (Tree.leaf kind name).pushAll children = .ok tree ∧
        tree.name = name ∧
        tree.kind = kind ∧ tree.children = children ∧
        ((∀ child ∈ children, child.WellFormed ∧ usableName child.name = true) →
          tree.WellFormed)) ∨
    (¬ ((children ≠ [] → kind = .directory) ∧ (children.map Tree.name).Nodup) ∧
      ∃ cause, (Tree.leaf kind name).pushAll children = .error cause) := by
  cases kind with
  | file =>
      cases children with
      | nil =>
          exact .inl ⟨by simp, .nil, _, rfl, rfl, rfl, rfl, fun _ => .file name⟩
      | cons child rest => exact .inr ⟨by simp, _, rfl⟩
  | directory =>
      by_cases distinct : (children.map Tree.name).Nodup
      · refine .inl
          ⟨fun _ => rfl, distinct, _, pushAll_children name [] distinct, rfl,
            rfl, rfl,
          fun kept => ?_⟩
        exact .directory name distinct
          (fun child present => (kept child present).2) fun child present =>
            (kept child present).1
      · exact .inr
          ⟨fun fits => distinct fits.2,
            pushAll_repeated List.nodup_nil distinct⟩

/-! ## Trees that wait for parents -/

/-- The name of the entry at a position. -/
def nameAt (entries : List Entry) (position : Nat) : Option String :=
  entries[position]?.map Entry.name

/-- A tree that waits for its parent, with the positions of its nodes. -/
structure Sprout (entries : List Entry) where
  /-- The position of the parent it waits for. -/
  parent : Nat
  /-- The position of its root. -/
  position : Nat
  tree : Tree
  numbers : List Nat
  hangs : parentAt entries position = some parent
  depicts : Depicts entries position tree numbers
  wellFormed : tree.WellFormed
  usable : usableName tree.name = true

namespace Sprout

variable {entries : List Entry}

/-- What the loop keeps of a tree that waits. -/
def waiting (sprout : Sprout entries) : Nat × Tree :=
  (sprout.parent, sprout.tree)

theorem nameAt_position (sprout : Sprout entries) :
    nameAt entries sprout.position = some sprout.tree.name := by
  obtain ⟨parent, position, tree, numbers, hangs, depicts, wellFormed,
    usable⟩ := sprout
  cases depicts with
  | node stands sameName sameKind children => simp [nameAt, stands, sameName]

theorem depictsAll (sprouts : List (Sprout entries)) :
    DepictsAll entries (sprouts.map position) (sprouts.map tree)
      (sprouts.flatMap numbers) := by
  induction sprouts with
  | nil => exact .nil
  | cons sprout sprouts hypothesis => exact .cons sprout.depicts hypothesis

/-- The names of trees are distinct if those at their positions are. -/
theorem nodup_nameAt_iff (sprouts : List (Sprout entries)) :
    ((sprouts.map position).map (nameAt entries)).Nodup ↔
      ((sprouts.map tree).map Tree.name).Nodup := by
  have sameNames : (sprouts.map position).map (nameAt entries) =
      ((sprouts.map tree).map Tree.name).map some := by
    simp [Function.comp_def, nameAt_position]
  rw [sameNames, List.nodup_map_iff (Option.some_injective String)]

/-- The trees that wait for a position. -/
theorem waitingFor_waiting (position : Nat) (sprouts : List (Sprout entries)) :
    waitingFor position (sprouts.map waiting) =
      (sprouts.filter fun sprout => sprout.parent == position).map tree := by
  simp [waitingFor, List.filter_map, Function.comp_def, waiting]

theorem waitingElsewhere_waiting
    (position : Nat)
    (sprouts : List (Sprout entries)) :
    waitingElsewhere position (sprouts.map waiting) =
      (sprouts.filter fun sprout => sprout.parent != position).map waiting := by
  simp [waitingElsewhere, List.filter_map, Function.comp_def, waiting]

end Sprout

/-- The trees that wait once the entries from a position on are read: those
whose parents stand in front of it. Every entry that is read stands in one of
them. -/
structure Frontier
    (entries : List Entry)
    (position : Nat)
    (sprouts : List (Sprout entries)) :
    Prop where
  positions : sprouts.map Sprout.position =
    (List.range' position (entries.length - position)).filter fun later =>
      (parentAt entries later).any (decide <| · < position)
  numbers : (sprouts.flatMap Sprout.numbers).Perm
    (List.range' position (entries.length - position))

namespace Frontier

variable {entries : List Entry} {position : Nat}
  {sprouts : List (Sprout entries)}

theorem start (entries : List Entry) : Frontier entries entries.length [] :=
  ⟨by simp, by simp⟩

theorem parent_lt
    (frontier : Frontier entries position sprouts)
    {sprout : Sprout entries}
    (present : sprout ∈ sprouts) :
    sprout.parent < position := by
  have isPosition := List.mem_map_of_mem (f := Sprout.position) present
  rw [frontier.positions] at isPosition
  simpa [sprout.hangs] using (List.mem_filter.mp isPosition).2

/-- The trees that wait for the entry in front are those of its children. -/
theorem positions_children
    (frontier : Frontier entries (position + 1) sprouts) :
    (sprouts.filter fun sprout => sprout.parent == position).map
      Sprout.position =
      childrenAt entries position := by
  have byParent :
      (sprouts.filter fun sprout => sprout.parent == position).map
        Sprout.position =
      (sprouts.map Sprout.position).filter fun later =>
        parentAt entries later == some position := by
    simp [List.filter_map, Function.comp_def, Sprout.hangs]
  rw [byParent, frontier.positions, List.filter_filter, childrenAt]
  refine List.filter_congr fun later _ => ?_
  cases parentAt entries later with
  | none => rfl
  | some parent => grind

theorem numbers_split
    (frontier : Frontier entries (position + 1) sprouts)
    (inside : position < entries.length) :
    ((position ::
      (sprouts.filter fun sprout => sprout.parent == position).flatMap
        Sprout.numbers) ++
      (sprouts.filter fun sprout => sprout.parent != position).flatMap
        Sprout.numbers).Perm
      (List.range' position (entries.length - position)) := by
  have length_eq : entries.length - position =
      entries.length - (position + 1) + 1 := by omega
  rw [length_eq, List.range'_succ, List.cons_append, ← List.flatMap_append]
  exact .cons _ <|
    ((List.filter_append_perm _ sprouts).flatMap_right _).trans frontier.numbers

/-- A tree that shows the entry in front waits in place of its children. -/
theorem next
    (frontier : Frontier entries (position + 1) sprouts)
    (inside : position < entries.length)
    {grown : Sprout entries}
    (samePosition : grown.position = position)
    (numbered : grown.numbers = position ::
      (sprouts.filter fun sprout => sprout.parent == position).flatMap
        Sprout.numbers)
    (earlier : grown.parent < position) :
    Frontier entries position
      (grown :: sprouts.filter fun sprout => sprout.parent != position) := by
  constructor
  · have hangs := samePosition ▸ grown.hangs
    have byParent : (sprouts.filter fun sprout => sprout.parent != position).map
        Sprout.position =
        (sprouts.map Sprout.position).filter fun later =>
          parentAt entries later != some position := by
      simp [List.filter_map, Function.comp_def, Sprout.hangs, bne]
    have length_eq : entries.length - position =
        entries.length - (position + 1) + 1 := by omega
    rw [List.map_cons, samePosition, byParent, frontier.positions,
      List.filter_filter, length_eq, List.range'_succ,
      List.filter_cons_of_pos (by simpa [hangs] using earlier)]
    refine congrArg _ (List.filter_congr fun later _ => ?_)
    cases parentAt entries later with
    | none => simp
    | some parent => grind
  · rw [List.flatMap_cons, numbered]
    exact frontier.numbers_split inside

/-- Nothing waits in front of the first entry. -/
theorem elsewhere_eq_nil (frontier : Frontier entries 1 sprouts) :
    (sprouts.filter fun sprout => sprout.parent != 0) = [] := by
  refine List.filter_eq_nil_iff.mpr fun sprout present => ?_
  simpa using frontier.parent_lt present

end Frontier

/-! ## The loop -/

/-- What the loop asks of the entry at a position: it takes those of its
children, and it hangs below an earlier entry if it is not the first. -/
structure Fits
    (entries : List Entry)
    (position : Nat)
    (entry : Entry) : Prop where
  takes : childrenAt entries position ≠ [] → entry.kind = .directory
  distinct : ((childrenAt entries position).map (nameAt entries)).Nodup
  hangs : position ≠ 0 →
    (∃ parent, entry.parent = some parent ∧ parent < position) ∧
    usableName entry.name = true

/-- The node of the entry in front takes the trees that wait for it, or it does
not fit. -/
theorem Frontier.pushAll_cases
    {entries : List Entry}
    {position : Nat}
    {sprouts : List (Sprout entries)}
    (frontier : Frontier entries (position + 1) sprouts)
    {entry : Entry}
    (stands : entries[position]? = some entry) :
    (((childrenAt entries position ≠ [] → entry.kind = .directory) ∧
        ((childrenAt entries position).map (nameAt entries)).Nodup) ∧
      ∃ tree : Tree,
        (Tree.leaf entry.kind entry.name).pushAll
          (waitingFor position (sprouts.map Sprout.waiting)) = .ok tree ∧
        tree.name = entry.name ∧ tree.WellFormed ∧
        Depicts entries position tree (position ::
          (sprouts.filter fun sprout => sprout.parent == position).flatMap
            Sprout.numbers)) ∨
    (¬ ((childrenAt entries position ≠ [] → entry.kind = .directory) ∧
        ((childrenAt entries position).map (nameAt entries)).Nodup) ∧
      ∃ cause, (Tree.leaf entry.kind entry.name).pushAll
        (waitingFor position (sprouts.map Sprout.waiting)) = .error cause) := by
  have children :=
    Sprout.depictsAll (sprouts.filter fun sprout => sprout.parent == position)
  have distinct :=
    Sprout.nodup_nameAt_iff
      (sprouts.filter fun sprout => sprout.parent == position)
  have empty :
      (sprouts.filter fun sprout => sprout.parent == position).map Sprout.tree =
        [] ↔
      childrenAt entries position = [] := by
    rw [← frontier.positions_children, List.map_eq_nil_iff, List.map_eq_nil_iff]
  rw [frontier.positions_children] at children distinct
  rw [Sprout.waitingFor_waiting, distinct, Ne, ← empty]
  rcases pushAll_leaf_cases entry.kind entry.name
      ((sprouts.filter fun sprout => sprout.parent == position).map
        Sprout.tree) with
    ⟨takes, nodup, tree, pushed, sameName, sameKind, sameChildren, keeps⟩ |
      refused
  · refine .inl
      ⟨⟨takes, nodup⟩, tree, pushed, sameName, keeps fun child present => ?_,
        .node stands sameName sameKind (sameChildren ▸ children)⟩
    obtain ⟨sprout, -, rfl⟩ := List.mem_map.mp present
    exact ⟨sprout.wellFormed, sprout.usable⟩
  · exact .inr refused

/-- The entries in front of a position, last first. -/
theorem zipIdx_take_succ_reverse
    {entries : List Entry}
    {position : Nat}
    {entry : Entry}
    (stands : entries[position]? = some entry) :
    (entries.take (position + 1)).zipIdx.reverse =
      (entry, position) :: (entries.take position).zipIdx.reverse := by
  obtain ⟨inside, isEntry⟩ := List.getElem?_eq_some_iff.mp stands
  rw [List.take_succ_eq_append_getElem inside, isEntry, List.zipIdx_append]
  simp [Nat.min_eq_left (Nat.le_of_lt inside)]

/-- A node with an earlier parent and a usable name waits for that parent. -/
theorem assembleFrom_of_hangs
    {entry : Entry}
    {position parent : Nat}
    {earlier : List (Entry × Nat)}
    {pending : List (Nat × Tree)}
    {node : Tree}
    (pushed :
      (Tree.leaf entry.kind entry.name).pushAll (waitingFor position pending) =
        .ok node)
    (isParent : entry.parent = some parent)
    (before : parent < position)
    (usable : usableName entry.name = true) :
    assembleFrom ((entry, position) :: earlier) pending =
      assembleFrom earlier
        ((parent, node) :: waitingElsewhere position pending) := by
  simp [assembleFrom, pushed, isParent, before, usable,
    Nat.ne_zero_of_lt before, bind, Except.bind]

/-- A node behind the first without an earlier parent or a usable name is
refused. -/
theorem assembleFrom_of_not_hangs
    {entry : Entry}
    {position : Nat}
    (notFirst : position ≠ 0)
    (earlier : List (Entry × Nat))
    {pending : List (Nat × Tree)}
    {node : Tree}
    (pushed :
      (Tree.leaf entry.kind entry.name).pushAll (waitingFor position pending) =
        .ok node)
    (lacks : ¬ ((∃ parent, entry.parent = some parent ∧ parent < position) ∧
      usableName entry.name = true)) :
    ∃ cause,
      assembleFrom ((entry, position) :: earlier) pending = .error cause := by
  simp only [assembleFrom, pushed, notFirst, bind, Except.bind, if_false]
  cases isParent : entry.parent with
  | none => exact ⟨_, rfl⟩
  | some parent =>
      by_cases before : parent < position
      · have unusable : ¬ usableName entry.name = true :=
          fun usable => lacks ⟨⟨parent, isParent, before⟩, usable⟩
        exact ⟨_, by dsimp only; rw [if_pos before, if_neg unusable]⟩
      · exact ⟨_, by dsimp only; rw [if_neg before]⟩

/-- One step behind the first entry: a node that fits waits for its parent in
front of it, with its children below it, and one that does not fit is
refused. -/
theorem Frontier.step_cases
    {entries : List Entry}
    {position : Nat}
    {sprouts : List (Sprout entries)}
    (frontier : Frontier entries (position + 1) sprouts)
    (notFirst : position ≠ 0)
    {entry : Entry}
    (stands : entries[position]? = some entry)
    (earlier : List (Entry × Nat)) :
    (Fits entries position entry ∧
      ∃ next : List (Sprout entries), Frontier entries position next ∧
        assembleFrom ((entry, position) :: earlier)
          (sprouts.map Sprout.waiting) =
          assembleFrom earlier (next.map Sprout.waiting)) ∨
    (¬ Fits entries position entry ∧
      ∃ cause,
        assembleFrom ((entry, position) :: earlier)
          (sprouts.map Sprout.waiting) =
          .error cause) := by
  rcases frontier.pushAll_cases stands with
    ⟨⟨takes, distinct⟩, tree, pushed, sameName, wellFormed, depicts⟩ |
      ⟨refused, cause, pushed⟩
  · by_cases hangs :
      (∃ parent, entry.parent = some parent ∧ parent < position) ∧
        usableName entry.name = true
    · obtain ⟨⟨parent, isParent, before⟩, usable⟩ := hangs
      let grown : Sprout entries :=
        { parent
          position
          tree
          numbers := _
          hangs := by rw [parentAt, stands, Option.bind_some, isParent]
          depicts
          wellFormed
          usable := sameName ▸ usable }
      have inside := (List.getElem?_eq_some_iff.mp stands).1
      have next : Frontier entries position
          (grown :: sprouts.filter fun sprout => sprout.parent != position) :=
        frontier.next inside rfl rfl before
      refine .inl
        ⟨⟨takes, distinct, fun _ => ⟨⟨parent, isParent, before⟩, usable⟩⟩, _,
          next, ?_⟩
      rw [assembleFrom_of_hangs pushed isParent before usable,
        Sprout.waitingElsewhere_waiting]
      rfl
    · exact .inr ⟨fun fits => hangs (fits.hangs notFirst),
        assembleFrom_of_not_hangs notFirst earlier pushed hangs⟩
  · exact .inr ⟨fun fits => refused ⟨fits.takes, fits.distinct⟩, cause, by
      rw [assembleFrom, pushed]; rfl⟩

/-- The last step: the node of the first entry is the whole tree if it fits. -/
theorem Frontier.last_cases
    {entries : List Entry}
    {sprouts : List (Sprout entries)}
    (frontier : Frontier entries 1 sprouts)
    {entry : Entry}
    (stands : entries[0]? = some entry) :
    (Fits entries 0 entry ∧
      ∃ tree : Tree,
        assembleFrom [(entry, 0)] (sprouts.map Sprout.waiting) = .ok tree ∧
        tree.WellFormed ∧ Pictures entries tree) ∨
    (¬ Fits entries 0 entry ∧
      ∃ cause,
        assembleFrom [(entry, 0)] (sprouts.map Sprout.waiting) =
          .error cause) := by
  rcases frontier.pushAll_cases stands with
    ⟨⟨takes, distinct⟩, tree, pushed, -, wellFormed, depicts⟩ |
      ⟨refused, cause, pushed⟩
  · refine .inl
      ⟨⟨takes, distinct, fun notFirst => absurd rfl notFirst⟩, tree, by
      rw [assembleFrom, pushed]; rfl, wellFormed, _, depicts, ?_⟩
    have split := frontier.numbers_split (List.getElem?_eq_some_iff.mp stands).1
    rw [frontier.elsewhere_eq_nil, List.flatMap_nil, List.append_nil] at split
    simpa [List.range_eq_range'] using split
  · exact .inr ⟨fun fits => refused ⟨fits.takes, fits.distinct⟩, cause, by
      rw [assembleFrom, pushed]; rfl⟩

/-- With the entries behind a position read, the rest is put together exactly if
each of its entries fits. -/
theorem assembleFrom_cases
    {entries : List Entry}
    {position : Nat}
    (inside : position < entries.length)
    {sprouts : List (Sprout entries)}
    (frontier : Frontier entries (position + 1) sprouts) :
    ((∀ place ≤ position, ∀ entry, entries[place]? = some entry →
      Fits entries place entry) ∧
      ∃ tree : Tree,
        assembleFrom (entries.take (position + 1)).zipIdx.reverse
          (sprouts.map Sprout.waiting) = .ok tree ∧
        tree.WellFormed ∧ Pictures entries tree) ∨
    (¬ (∀ place ≤ position, ∀ entry, entries[place]? = some entry →
      Fits entries place entry) ∧
      ∃ cause,
        assembleFrom (entries.take (position + 1)).zipIdx.reverse
          (sprouts.map Sprout.waiting) = .error cause) := by
  induction position generalizing sprouts with
  | zero =>
      have stands := List.getElem?_eq_getElem inside
      rw [zipIdx_take_succ_reverse stands]
      rcases frontier.last_cases stands with ⟨fits, built⟩ | ⟨notFits, refused⟩
      · refine .inl ⟨fun place early other isOther => ?_, built⟩
        obtain rfl : place = 0 := Nat.le_zero.mp early
        obtain rfl := Option.some.inj (stands.symm.trans isOther)
        exact fits
      · exact .inr
          ⟨fun fit => notFits (fit 0 (Nat.le_refl 0) _ stands), refused⟩
  | succ position hypothesis =>
      have stands := List.getElem?_eq_getElem inside
      rw [zipIdx_take_succ_reverse stands]
      rcases frontier.step_cases (Nat.succ_ne_zero position) stands
          (entries.take (position + 1)).zipIdx.reverse with
        ⟨fits, next, nextFrontier, stepped⟩ | ⟨notFits, refused⟩
      · rw [stepped]
        rcases hypothesis (Nat.lt_of_succ_lt inside) nextFrontier with
          ⟨fit, built⟩ | ⟨notFit, refused⟩
        · refine .inl ⟨fun place early other isOther => ?_, built⟩
          rcases Nat.lt_or_eq_of_le early with earlier | rfl
          · exact fit place (Nat.le_of_lt_succ earlier) other isOther
          · obtain rfl := Option.some.inj (stands.symm.trans isOther)
            exact fits
        · exact .inr ⟨fun fit => notFit fun place early =>
            fit place (Nat.le_succ_of_le early), refused⟩
      · exact .inr
          ⟨fun fit => notFits (fit _ (Nat.le_refl _) _ stands), refused⟩

/-! ## What is put together -/

theorem mem_childrenAt {entries : List Entry} {position later : Nat} :
    later ∈ childrenAt entries position ↔
      position < later ∧ parentAt entries later = some position := by
  rw [childrenAt, List.mem_filter, List.mem_range'_1, beq_iff_eq]
  refine ⟨fun ⟨behind, hangs⟩ => ⟨behind.1, hangs⟩,
    fun ⟨behind, hangs⟩ => ⟨⟨behind, ?_⟩, hangs⟩⟩
  obtain ⟨entry, stands, -⟩ := Option.bind_eq_some_iff.mp hangs
  have inside := (List.getElem?_eq_some_iff.mp stands).1
  omega

theorem usableName_iff {name : String} :
    usableName name = true ↔ name ≠ "" ∧ '/' ∉ name.toList := by
  simp [usableName, Path.separator]

/-- The entries of an image fit. -/
theorem Valid.fits
    {entries : List Entry}
    (valid : Valid entries)
    {position : Nat}
    {entry : Entry}
    (stands : entries[position]? = some entry) :
    Fits entries position entry := by
  constructor
  · intro parental
    obtain ⟨later, isChild⟩ := List.exists_mem_of_ne_nil _ parental
    obtain ⟨behind, hangs⟩ := mem_childrenAt.mp isChild
    obtain ⟨child, childStands, isParent⟩ := Option.bind_eq_some_iff.mp hangs
    obtain ⟨⟨parent, holder, named, -, holds, isDirectory⟩, -⟩ :=
      valid.below (Nat.ne_zero_of_lt behind) childStands
    obtain rfl : position = parent :=
      Option.some.inj (isParent.symm.trans named)
    obtain rfl : entry = holder := Option.some.inj (stands.symm.trans holds)
    exact isDirectory
  · refine List.Nodup.map_on ?_ (List.Nodup.filter _ List.nodup_range')
    intro later isChild other isSibling sameName
    obtain ⟨child, childStands, isParent⟩ :=
      Option.bind_eq_some_iff.mp (mem_childrenAt.mp isChild).2
    obtain ⟨sibling, siblingStands, siblingParent⟩ :=
      Option.bind_eq_some_iff.mp (mem_childrenAt.mp isSibling).2
    by_contra differ
    refine valid.distinct differ childStands siblingStands
      (isParent.trans siblingParent.symm) ?_
    simpa [nameAt, childStands, siblingStands] using sameName
  · intro notFirst
    obtain ⟨⟨parent, holder, named, before, -, -⟩, usable⟩ :=
      valid.below notFirst stands
    exact ⟨⟨parent, named, before⟩, usableName_iff.mpr usable⟩

section Fitting

variable {entries : List Entry} {position : Nat} {entry : Entry}

/-- An entry stands among the children of its parent. -/
theorem mem_childrenAt_of_fits
    (root : entries[0]? = some ⟨none, Tree.rootName, .directory⟩)
    (fits : Fits entries position entry)
    (stands : entries[position]? = some entry)
    {parent : Nat}
    (named : entry.parent = some parent) :
    position ∈ childrenAt entries parent := by
  refine mem_childrenAt.mpr
    ⟨?_, by rw [parentAt, stands, Option.bind_some, named]⟩
  by_cases isFirst : position = 0
  · subst isFirst
    obtain rfl := Option.some.inj (root.symm.trans stands)
    cases named
  · obtain ⟨⟨place, isPlace, before⟩, -⟩ := fits.hangs isFirst
    exact Option.some.inj (isPlace.symm.trans named) ▸ before

/-- Only the first entry has no parent. -/
theorem Fits.eq_zero_of_parent_eq_none
    (fits : Fits entries position entry)
    (parentless : entry.parent = none) :
    position = 0 := by
  by_contra notFirst
  obtain ⟨⟨parent, isParent, -⟩, -⟩ := fits.hangs notFirst
  rw [parentless] at isParent
  cases isParent

/-- Entries that fit are an image if the root directory is their first one. -/
theorem valid_of_fits
    (root : entries[0]? = some ⟨none, Tree.rootName, .directory⟩)
    (fits : ∀ position entry, entries[position]? = some entry →
      Fits entries position entry) :
    Valid entries := by
  have isChild {position parent : Nat} {entry : Entry}
      (stands : entries[position]? = some entry)
      (named : entry.parent = some parent) : position ∈
      childrenAt entries parent :=
    mem_childrenAt_of_fits root (fits position entry stands) stands named
  have holds {position parent : Nat} {entry : Entry}
      (stands : entries[position]? = some entry)
      (named : entry.parent = some parent) : ∃ holder,
      entries[parent]? = some holder :=
    ⟨_,
      List.getElem?_eq_getElem
        (Nat.lt_trans (mem_childrenAt.mp (isChild stands named)).1
          (List.getElem?_eq_some_iff.mp stands).1)⟩
  refine ⟨root, fun {position entry} notFirst stands => ?_,
    fun {position other entry sibling} differ stands siblingStands sameParent
      sameName => ?_⟩
  · obtain ⟨⟨parent, named, before⟩, usable⟩ :=
      (fits position entry stands).hangs notFirst
    obtain ⟨holder, isHolder⟩ := holds stands named
    have isDirectory := (fits parent holder isHolder).takes
      (List.ne_nil_of_mem (isChild stands named))
    exact ⟨⟨parent, holder, named, before, isHolder, isDirectory⟩,
      usableName_iff.mp usable⟩
  · cases named : entry.parent with
    | none =>
        have isFirst :=
          (fits position entry stands).eq_zero_of_parent_eq_none named
        have otherFirst :=
          (fits other sibling siblingStands).eq_zero_of_parent_eq_none
            (sameParent ▸ named)
        exact differ (isFirst.trans otherFirst.symm)
    | some parent =>
        obtain ⟨holder, isHolder⟩ := holds stands named
        refine differ
          (List.inj_on_of_nodup_map (fits parent holder isHolder).distinct
            (isChild stands named) (isChild siblingStands (sameParent ▸ named))
            ?_)
        simpa [nameAt, stands, siblingStands] using sameName

end Fitting

/-- Behind the root directory a list is an image exactly if every entry fits. -/
theorem valid_iff_fits
    {entries : List Entry}
    (root : entries[0]? = some ⟨none, Tree.rootName, .directory⟩) :
    Valid entries ↔
      ∀ position entry, entries[position]? = some entry →
      Fits entries position entry :=
  ⟨fun valid _ _ stands => valid.fits stands, valid_of_fits root⟩

theorem Entry.isRoot_iff {entry : Entry} :
    entry.isRoot = true ↔ entry = ⟨none, Tree.rootName, .directory⟩ := by
  obtain ⟨parent, name, kind⟩ := entry
  simp [Entry.isRoot, and_assoc]

/-- Exactly images are put together: to a well-formed namespace that shows every
entry at one node. -/
theorem assemble_cases (entries : List Entry) :
    (Valid entries ∧ ∃ tree : Tree, assemble entries = .ok tree ∧
      tree.WellFormed ∧
      tree.kind = .directory ∧ tree.name = Tree.rootName ∧
      Pictures entries tree) ∨
    (¬ Valid entries ∧ ∃ cause, assemble entries = .error cause) := by
  cases entries with
  | nil => exact .inr ⟨fun valid => (nomatch valid.root), _, rfl⟩
  | cons first rest =>
      by_cases isRoot : first.isRoot = true
      · have root : (first :: rest)[0]? =
            some ⟨none, Tree.rootName, .directory⟩ :=
          congrArg some (Entry.isRoot_iff.mp isRoot)
        have whole : (first :: rest).take (rest.length + 1) =
            first :: rest := by simp
        have inside : rest.length < (first :: rest).length := Nat.lt_succ_self _
        have covers {position : Nat} {entry : Entry}
            (stands : (first :: rest)[position]? = some entry) : position ≤
            rest.length :=
          Nat.le_of_lt_succ (List.getElem?_eq_some_iff.mp stands).1
        have cases := assembleFrom_cases inside (Frontier.start (first :: rest))
        rw [whole, List.map_nil] at cases
        rw [assemble, if_pos isRoot, valid_iff_fits root]
        rcases cases with
          ⟨fits, tree, built, wellFormed, pictures⟩ | ⟨notFits, refused⟩
        · refine .inl
            ⟨fun position entry stands =>
              fits position (covers stands) entry stands,
            tree, built, wellFormed, ?_⟩
          obtain ⟨numbers, depicts, all⟩ := pictures
          refine ⟨?_, ?_, numbers, depicts, all⟩
          all_goals
            cases depicts with
            | node stands sameName sameKind children =>
              obtain rfl := Option.some.inj (root.symm.trans stands)
              assumption
        · exact .inr
            ⟨fun fits => notFits fun position _ => fits position, refused⟩
      · refine .inr ⟨fun valid => isRoot (Entry.isRoot_iff.mpr ?_), _, by
          rw [assemble, if_neg isRoot]⟩
        simpa using valid.root

/-- An image that is read is a well-formed namespace that shows the entries in
its bytes. -/
theorem entries_of_decode
    {content : List UInt8}
    {image : Image}
    (decoded : decode content = .ok image) :
    ∃ entries : List Entry, decodeEntries content = .ok (image.txid, entries) ∧
      Valid entries ∧
      image.root.WellFormed ∧ image.root.kind = .directory ∧
      image.root.name = Tree.rootName ∧
      Pictures entries image.root := by
  unfold decode at decoded
  cases taken : decodeEntries content with
  | error cause => simp [taken, bind, Except.bind] at decoded
  | ok held =>
      obtain ⟨txid, entries⟩ := held
      rcases assemble_cases entries with
        ⟨valid, tree, built, wellFormed, isDirectory, isRoot, pictures⟩ |
          ⟨-, cause, refused⟩
      · simp only [taken, built, bind, Except.bind] at decoded
        cases decoded
        exact ⟨entries, rfl, valid, wellFormed, isDirectory, isRoot, pictures⟩
      · simp [taken, refused, bind, Except.bind] at decoded

theorem decode_of_valid
    {content : List UInt8}
    {txid : Nat}
    {entries : List Entry}
    (decoded : decodeEntries content = .ok (txid, entries))
    (valid : Valid entries) :
    ∃ image, decode content = .ok image := by
  rcases assemble_cases entries with ⟨-, tree, built, -⟩ | ⟨invalid, -⟩
  · exact ⟨⟨txid, tree⟩,
      by rw [decode, decoded]; simp only [bind, Except.bind, built]; rfl⟩
  · exact absurd valid invalid

/-- Bytes of entries are read as an image exactly if the entries are one, and
then as a namespace that shows each of them at one node. -/
theorem decode_iff_valid
    {content : List UInt8}
    {txid : Nat}
    {entries : List Entry}
    (decoded : decodeEntries content = .ok (txid, entries)) :
    ((∃ image, decode content = .ok image) ↔ Valid entries) ∧
      ∀ image, decode content = .ok image →
      image.txid = txid ∧ Pictures entries image.root := by
  refine ⟨⟨fun ⟨image, isImage⟩ => ?_, decode_of_valid decoded⟩,
    fun image isImage => ?_⟩
  all_goals
    obtain ⟨listed, isListed, valid, -, -, -, pictures⟩ :=
      entries_of_decode isImage
    cases decoded.symm.trans isListed
  · exact valid
  · exact ⟨rfl, pictures⟩

/-- Entries that stand level by level, and so not in pre-order. -/
def levels : List Entry :=
  [⟨none, "/", .directory⟩, ⟨some 0, "a", .directory⟩, ⟨some 0, "b", .file⟩,
    ⟨some 1, "c", .file⟩]

theorem valid_levels : Valid levels := by
  have places {position : Nat} {entry : Entry}
      (stands : levels[position]? = some entry) :
      (position = 0 ∧ entry = ⟨none, "/", .directory⟩) ∨
        (position = 1 ∧ entry = ⟨some 0, "a", .directory⟩) ∨
        (position = 2 ∧ entry = ⟨some 0, "b", .file⟩) ∨
        (position = 3 ∧ entry = ⟨some 1, "c", .file⟩) := by
    match position, stands with
    | 0, stands | 1, stands | 2, stands | 3, stands =>
        simpa [levels, eq_comm] using stands
  refine ⟨rfl, fun notFirst stands => ?_,
    fun differ stands siblingStands sameParent => ?_⟩
  · rcases places stands with ⟨rfl, rfl⟩ | ⟨rfl, rfl⟩ | ⟨rfl, rfl⟩ | ⟨rfl, rfl⟩
    all_goals simp_all [levels]
  · rcases places stands with
      ⟨rfl, rfl⟩ | ⟨rfl, rfl⟩ | ⟨rfl, rfl⟩ | ⟨rfl, rfl⟩ <;>
      rcases places siblingStands with
        ⟨rfl, rfl⟩ | ⟨rfl, rfl⟩ | ⟨rfl, rfl⟩ | ⟨rfl, rfl⟩ <;>
      simp_all

/-- Entries of an image need not stand in pre-order. -/
theorem decode_iff_valid_levels :
    decodeEntries (Text.utf8 (encodeEntries 7 levels)) = .ok (7, levels) ∧
      ∃ image : Image, decode (Text.utf8 (encodeEntries 7 levels)) = .ok image ∧
        image.txid = 7 ∧ Pictures levels image.root := by
  have words : ∀ entry ∈ levels, ∀ parent ∈ entry.parent,
      parent ≤ Word.max := by decide
  have decoded := decodeEntries_utf8 (show 7 ≤ Word.max by decide) words
  obtain ⟨accepted, shows⟩ := decode_iff_valid decoded
  obtain ⟨image, isImage⟩ := accepted.mpr valid_levels
  exact ⟨decoded, image, isImage, shows image isImage⟩

end Image
end NameService
