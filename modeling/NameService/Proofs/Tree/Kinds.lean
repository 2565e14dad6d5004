import Mathlib.Data.List.Basic
import NameService.Proofs.Tree.Growth

/-!
# A namespace as a map

A tree tells what stands at the names on the way down from its root: a
directory, a file or nothing. Mutations are described by this map alone. They
fail if a file is in the way, they fill in the directories that are missing on
the way, and what stood anywhere else stays, in its order.
-/

namespace NameService
namespace Tree

/-! ## What stands where -/

/-- What stands at names, as a look-up reports it. -/
def kindAt? (tree : Tree) (names : List String) : Option Kind :=
  (tree.descend? names).map kind

/-- The names of what stands in the directory at names, in order. -/
def namesAt (tree : Tree) (names : List String) : List String :=
  ((tree.descend? names).map fun node => node.children.map name).getD []

/-- A file stands somewhere on the way from below the root down to names. -/
def Blocked (tree : Tree) (names : List String) : Prop :=
  ∃ front, front ≠ [] ∧ front <+: names ∧ tree.kindAt? front = some .file

/-- A map with every missing directory on the way down names filled in. -/
def withDirectories (kinds : List String → Option Kind) (names : List String) :
    List String → Option Kind :=
  fun other => if other <+: names ∧ kinds other = none then some .directory else
    kinds other

/-- Every directory holds what it held, in its order, and behind it at most one
name more, at which nothing stood before. -/
def Appends (before after : Tree) : Prop :=
  ∀ names, ∃ new : Option String,
    after.namesAt names = before.namesAt names ++ new.toList ∧
      ∀ name ∈ new, before.kindAt? (names ++ [name]) = none ∧
        after.kindAt? (names ++ [name]) ≠ none

/-- The directory that a walk goes on in: the child of a name, or an empty
directory if there is none. -/
def entered (node : Tree) (name : String) : Tree :=
  (node.child? name).getD (emptyDirectory name)

variable {α : Type} {path own name : String} {action : Tree → Tree × α}
  {node : Tree} {names : List String}

@[simp] theorem kindAt?_nil (node : Tree) :
    node.kindAt? [] = some node.kind := by
  simp [kindAt?]

@[simp] theorem kindAt?_cons
    (node : Tree)
    (name : String)
    (names : List String) :
    node.kindAt? (name :: names) =
      (node.child? name).bind (·.kindAt? names) := by
  simp only [kindAt?, descend?_cons]
  cases node.child? name <;> rfl

/-- What a look-up of a path reports stands at its components. -/
theorem kindAt?_components (tree : Tree) (path : String) :
    tree.kindAt? (Path.components path) = (tree.find? path).map kind := rfl

theorem kindAt?_eq_none_iff :
    node.kindAt? names = none ↔ node.descend? names = none :=
  Option.map_eq_none_iff

theorem descend?_append (node : Tree) (names more : List String) :
    node.descend? (names ++ more) =
      (node.descend? names).bind (·.descend? more) := by
  induction names generalizing node with
  | nil => simp
  | cons name names hypothesis =>
      rw [List.cons_append, descend?_cons, descend?_cons, Option.bind_assoc]
      exact congrArg _ (funext hypothesis)

/-- Nothing stands in an empty directory. -/
theorem descend?_emptyDirectory (own : String) (nonempty : names ≠ []) :
    (emptyDirectory own).descend? names = none := by
  cases names with
  | nil => exact absurd rfl nonempty
  | cons name names => rfl

theorem namesAt_emptyDirectory (own : String) (names : List String) :
    (emptyDirectory own).namesAt names = [] := by
  cases names with
  | nil => simp [namesAt, emptyDirectory]
  | cons name names =>
      simp only [namesAt, descend?_emptyDirectory own (List.cons_ne_nil _ _)];
        rfl

/-- Below a name a tree leads where the directory leads that a walk goes on
in. -/
theorem descend?_entered (node : Tree) (name : String) (nonempty : names ≠ []) :
    (entered node name).descend? names = node.descend? (name :: names) := by
  rw [descend?_cons, entered]
  cases node.child? name with
  | none => exact descend?_emptyDirectory name nonempty
  | some child => rfl

theorem namesAt_entered (node : Tree) (name : String) (names : List String) :
    (entered node name).namesAt names = node.namesAt (name :: names) := by
  rw [namesAt, namesAt, descend?_cons, entered]
  cases node.child? name with
  | none => exact namesAt_emptyDirectory name names
  | some child => rfl

theorem not_blocked_nil (node : Tree) : ¬ Blocked node [] := by
  rintro ⟨front, nonempty, isFront, -⟩
  exact nonempty (List.prefix_nil.mp isFront)

/-- If no file is in the way, the way goes on below the first name. -/
theorem clear_of_clear_cons (clear : ¬ Blocked node (name :: names)) :
    (∀ child, node.child? name = some child → child.kind = .directory) ∧
      ¬ Blocked (entered node name) names := by
  constructor
  · intro child isChild
    cases isKind : child.kind with
    | directory => rfl
    | file =>
        refine absurd ⟨[name], by simp, by simp, ?_⟩ clear
        simp [isChild, isKind]
  · rintro ⟨front, nonempty, isFront, isFile⟩
    refine clear ⟨name :: front, by simp, by simpa using isFront, ?_⟩
    rwa [kindAt?, ← descend?_entered node name nonempty]

/-- If a file is in the way, it is the child of the first name or in the way
below it. -/
theorem blocked_cons (blocked : Blocked node (name :: names)) :
    ∃ child, node.child? name = some child ∧
      (child.kind = .file ∨ Blocked child names) := by
  obtain ⟨front, nonempty, isFront, isFile⟩ := blocked
  cases front with
  | nil => exact absurd rfl nonempty
  | cons first front =>
      obtain ⟨rfl, below⟩ := List.cons_prefix_cons.mp isFront
      rw [kindAt?_cons] at isFile
      obtain ⟨child, isChild, isFile⟩ := Option.bind_eq_some_iff.mp isFile
      refine ⟨child, isChild, ?_⟩
      cases front with
      | nil => exact .inl (by simpa using isFile)
      | cons second front =>
          exact .inr ⟨second :: front, by simp, below, isFile⟩

/-! ## Single children -/

/-- The child of a name is one of the children of a well-formed directory, and
has the name. -/
theorem WellFormed.child
    (wellFormed : WellFormed node)
    {child : Tree}
    (isChild : node.child? name = some child) :
    WellFormed child ∧ child.name = name := by
  cases wellFormed with
  | file own => cases isChild
  | directory own distinct usable below =>
      obtain ⟨position, found, held⟩ := Option.bind_eq_some_iff.mp isChild
      have named := NameIndex.getElem?_of_find?_ofNames found
      have held : _ = some child := held
      rw [children_directory] at held
      rw [List.getElem?_map, held] at named
      exact ⟨below child (List.mem_of_getElem? held), Option.some.inj named⟩

/-- A walk goes on in a well-formed directory of the name. -/
theorem WellFormed.entered (wellFormed : WellFormed node) (name : String) :
    WellFormed (entered node name) ∧ (Tree.entered node name).name = name := by
  rw [Tree.entered]
  cases isChild : node.child? name with
  | none => exact ⟨wellFormed_emptyDirectory name, rfl⟩
  | some child => exact wellFormed.child isChild

theorem kind_entered (directories : ∀ child, node.child? name = some child →
    child.kind = .directory) : (entered node name).kind = .directory := by
  rw [entered]
  cases isChild : node.child? name with
  | none => rfl
  | some child => exact directories child isChild

/-- A directory got a child of a name: in the place of its former one, or behind
all others. -/
structure Places (node : Tree) (name : String) (child after : Tree) : Prop where
  kind : after.kind = .directory
  child : ∀ other, after.child? other = if other = name then some child else
    node.child? other
  names : after.children.map Tree.name =
    node.children.map Tree.name ++ if (node.child? name).isSome then [] else
      [name]

/-- A child of a new name is placed behind the others. -/
theorem places_append
    {children : List Tree}
    {index : NameIndex}
    (wellFormed : WellFormed (directory own children index))
    (missing : index.find? name = none)
    {child : Tree}
    (named : child.name = name) :
    Places (directory own children index) name child
      (directory own (children ++ [child])
        (index.insert name children.length)) := by
  have unknown : (directory own children index).child? name = none := by
    rw [child?_directory, missing]
    rfl
  refine ⟨rfl, fun other => ?_, by simp [unknown, named]⟩
  split
  · rename_i same
    simp [child?_directory, same]
  · rename_i distinct
    rw [child?_directory, child?_directory,
      NameIndex.find?_insert_of_ne _ distinct]
    cases found : index.find? other with
    | none => rfl
    | some position =>
        obtain ⟨held, isHeld, -⟩ := wellFormed.child_exists found
        exact List.getElem?_append_left (List.getElem?_eq_some_iff.mp isHeld).1

/-- A child is placed where the former one of its name stood. -/
theorem places_set
    {children : List Tree}
    {index : NameIndex}
    (wellFormed : WellFormed (directory own children index))
    {position : Nat}
    (found : index.find? name = some position)
    {child grown : Tree}
    (held : children[position]? = some child)
    (named : grown.name = name) :
    Places (directory own children index) name grown
      (directory own (children.set position grown) index) := by
  have known : (directory own children index).child? name = some child := by
    rw [child?_directory, found]
    exact held
  have sameName : child.name = name := (wellFormed.child known).2
  refine ⟨rfl, fun other => ?_, ?_⟩
  · have inside := (List.getElem?_eq_some_iff.mp held).1
    split
    · rename_i same
      simp [child?_directory, same, found, inside]
    · rename_i distinct
      rw [child?_directory, child?_directory]
      cases otherFound : index.find? other with
      | none => rfl
      | some place =>
          refine List.getElem?_set_ne fun same => distinct ?_
          subst same
          have otherKnown : (directory own children index).child? other =
              some child := by
            rw [child?_directory, otherFound]
            exact held
          exact (wellFormed.child otherKnown).2.symm.trans sameName
  · have inNames : (children.map Tree.name)[position]? = some grown.name := by
      simp [held, named, sameName]
    obtain ⟨inside, isName⟩ := List.getElem?_eq_some_iff.mp inNames
    simp only [children_directory, known, Option.isSome_some, if_true,
      List.append_nil, List.map_set]
    rw [← isName]
    exact List.set_getElem_self inside

/-- A walk from a directory places what it makes of the directory that it goes
on in. -/
theorem walk_places
    (path : String)
    (keepsName : ∀ node, (action node).1.name = node.name)
    (wellFormed : WellFormed node)
    (isDirectory : node.kind = .directory)
    (directories : ∀ child, node.child? name = some child →
      child.kind = .directory)
    (names : List String) :
    Places node name (walk path action (entered node name) names).1
        (walk path action node (name :: names)).1 ∧
      (walk path action node (name :: names)).2 =
        (walk path action (entered node name) names).2.map fun (made, answer) =>
          ((node.child? name).isNone || made, answer) := by
  cases node with
  | file own => cases isDirectory
  | directory own children index =>
      have sameName (node : Tree) : (walk path action node names).1.name =
          node.name :=
        name_walk keepsName node names
      cases found : index.find? name with
      | none =>
          have unknown : (directory own children index).child? name = none := by
            rw [child?_directory, found]
            rfl
          have empty : entered (directory own children index) name =
              emptyDirectory name := by
            rw [entered, unknown]
            rfl
          rw [empty, unknown]
          simp only [walk, found]
          exact ⟨places_append wellFormed found (sameName _), rfl⟩
      | some position =>
          obtain ⟨child, held, childWellFormed⟩ := wellFormed.child_exists found
          have known : (directory own children index).child? name =
              some child := by
            rw [child?_directory, found]
            exact held
          have same : entered (directory own children index) name = child := by
            rw [entered, known]
            rfl
          have notFile : child.isFile = false := by
            rw [isFile, directories child known]
            rfl
          rw [same, known]
          simp only [walk, found, held, notFile, Bool.false_eq_true, if_false]
          refine ⟨places_set wellFormed found held
            ((sameName child).trans (wellFormed.child known).2), ?_⟩
          cases (walk path action child names).2 <;> rfl

/-! ## Walks -/

/-- A walk went from a node down names, made what was missing, and turned the
last directory on the way into another. -/
structure Passes
    (node : Tree)
    (names : List String)
    (last final after : Tree) : Prop where
  /-- The last directory is the one that names lead to, or a new one. -/
  reached : node.descend? names = some last ∨
    node.descend? names = none ∧ ∃ own, last = emptyDirectory own
  /-- Behind the last directory the tree leads where its successor does. -/
  behind : ∀ rest, after.descend? (names ++ rest) = final.descend? rest
  /-- On the way there are directories, which got the next name if they lacked
  it. -/
  along : ∀ front next rest, names = front ++ next :: rest →
    after.kindAt? front = some .directory ∧
      after.namesAt front = node.namesAt front ++
        if (node.descend? (front ++ [next])).isSome then [] else [next]
  /-- Away from the way nothing changed. -/
  aside : ∀ other, ¬ names <+: other → ¬ other <+: names →
    after.descend? other = node.descend? other

variable {last final after : Tree}

theorem passes_nil (node final : Tree) : Passes node [] node final final :=
  ⟨.inl (descend?_nil node), fun _ => rfl, by simp,
    fun _ aside => absurd List.nil_prefix aside⟩

/-- A walk that went on in a directory went down the name of the directory
first. -/
theorem Passes.cons
    {grown : Tree}
    (passes : Passes (entered node name) names last final grown)
    (places : Places node name grown after) :
    Passes node (name :: names) last final after := by
  have leads (names : List String) :
      after.descend? (name :: names) = grown.descend? names := by
    rw [descend?_cons, places.child, if_pos rfl]
    rfl
  refine ⟨?_, fun rest => ?_, fun front next rest isSplit => ?_,
    fun other notBehind notAlong => ?_⟩
  · cases names with
    | nil =>
        have reached : some (entered node name) = some last := by
          rcases passes.reached with same | ⟨nothing, -⟩
          · simpa using same
          · simp at nothing
        rw [← Option.some.inj reached, descend?_cons, entered]
        cases node.child? name with
        | none => exact .inr ⟨rfl, name, rfl⟩
        | some child => exact .inl (descend?_nil child)
    | cons second names =>
        rw [← descend?_entered node name (List.cons_ne_nil _ _)]
        exact passes.reached
  · rw [List.cons_append, leads]
    exact passes.behind rest
  · cases front with
    | nil =>
        obtain ⟨rfl, -⟩ := List.cons.inj isSplit
        rw [List.nil_append, descend?_cons]
        simp only [kindAt?_nil, places.kind, namesAt, descend?_nil,
          Option.map_some, Option.getD_some, places.names]
        cases node.child? name <;> simp
    | cons first front =>
        obtain ⟨rfl, below⟩ := List.cons.inj isSplit
        obtain ⟨isDirectory, got⟩ := passes.along front next rest below
        rw [List.cons_append, ← descend?_entered node name (by simp),
          ← namesAt_entered node name front, kindAt?, leads,
          namesAt, leads]
        exact ⟨isDirectory, got⟩
  · cases other with
    | nil => exact absurd List.nil_prefix notAlong
    | cons first other =>
        rw [List.cons_prefix_cons] at notBehind notAlong
        rw [descend?_cons, places.child]
        split
        · rename_i same
          subst same
          have aside :=
            passes.aside other (fun isPrefix => notBehind ⟨rfl, isPrefix⟩)
              fun isPrefix => notAlong ⟨rfl, isPrefix⟩
          have nonempty : other ≠ [] := by
            rintro rfl
            exact notAlong ⟨rfl, List.nil_prefix⟩
          rw [Option.bind_some, aside, descend?_entered node first nonempty]
        · rw [descend?_cons]

/-- A walk that no file is in the way of passes, and acts on the last
directory. -/
theorem walk_of_clear
    (keepsName : ∀ node, (action node).1.name = node.name)
    (wellFormed : WellFormed node)
    (isDirectory : node.kind = .directory)
    (clear : ¬ Blocked node names)
    (path : String) :
    ∃ last, WellFormed last ∧ last.kind = .directory ∧
      Passes node names last (action last).1 (walk path action node names).1 ∧
      (walk path action node names).2 =
        .ok ((node.descend? names).isNone, (action last).2) := by
  induction names generalizing node with
  | nil =>
      rw [walk_nil, descend?_nil]
      exact ⟨node, wellFormed, isDirectory, passes_nil node _, rfl⟩
  | cons name names hypothesis =>
      obtain ⟨directories, clearBelow⟩ := clear_of_clear_cons clear
      obtain ⟨places, answers⟩ :=
        walk_places path keepsName wellFormed isDirectory directories names
      obtain ⟨last, lastWellFormed, lastIsDirectory, passes, answer⟩ :=
        hypothesis (wellFormed.entered name).1 (kind_entered directories)
          clearBelow
      refine ⟨last, lastWellFormed, lastIsDirectory, passes.cons places, ?_⟩
      rw [answers, answer]
      refine congrArg (fun made => Except.ok (made, (action last).2)) ?_
      cases names with
      | nil => cases isChild : node.child? name <;> simp [isChild]
      | cons second names =>
          rw [descend?_entered node name (List.cons_ne_nil _ _), descend?_cons]
          cases node.child? name <;> rfl

/-- A walk that a file is in the way of is refused. -/
theorem walk_of_blocked
    (wellFormed : WellFormed node)
    (isDirectory : node.kind = .directory)
    (blocked : Blocked node names)
    (path : String)
    (action : Tree → Tree × α) :
    (walk path action node names).2 = .error (.notADirectory path) := by
  induction names generalizing node with
  | nil => exact absurd blocked (not_blocked_nil node)
  | cons name names hypothesis =>
      obtain ⟨child, isChild, inTheWay⟩ := blocked_cons blocked
      have childWellFormed := (wellFormed.child isChild).1
      cases node with
      | file own => cases isDirectory
      | directory own children index =>
          obtain ⟨position, found, held⟩ := Option.bind_eq_some_iff.mp isChild
          have found : index.find? name = some position := found
          have held : children[position]? = some child := held
          simp only [walk, found, held]
          cases isKind : child.kind with
          | file => simp [isFile, isKind]
          | directory =>
              have below : Blocked child names := by
                simpa [isKind] using inTheWay
              simp [isFile, isKind, hypothesis childWellFormed isKind below]

/-! ## The map behind a walk -/

theorem not_append_prefix
    (names : List String)
    {rest : List String}
    (nonempty : rest ≠ []) :
    ¬ names ++ rest <+: names := by
  intro isPrefix
  have bound := isPrefix.length_le
  have some_more := List.length_pos_iff.mpr nonempty
  rw [List.length_append] at bound
  omega

/-- In the map with the directories of the way the last directory stands at its
end. -/
theorem Passes.withDirectories_append
    (passes : Passes node names last final after)
    (isDirectory : last.kind = .directory)
    (rest : List String) :
    withDirectories node.kindAt? names (names ++ rest) = last.kindAt? rest := by
  rw [withDirectories]
  rcases passes.reached with found | ⟨missing, own, rfl⟩
  · have same : node.kindAt? (names ++ rest) = last.kindAt? rest := by
      rw [kindAt?, descend?_append, found]
      rfl
    rw [same, if_neg]
    rintro ⟨isPrefix, missing⟩
    cases rest with
    | nil => simp at missing
    | cons name rest => exact not_append_prefix names (by simp) isPrefix
  · have nothing : node.kindAt? (names ++ rest) = none := by
      rw [kindAt?_eq_none_iff, descend?_append, missing]
      rfl
    cases rest with
    | nil =>
        rw [nothing, if_pos ⟨by simp, rfl⟩, kindAt?_nil]
        rfl
    | cons name rest =>
        rw [nothing,
          if_neg fun both => not_append_prefix names (by simp) both.1, kindAt?,
          descend?_emptyDirectory own (by simp)]
        rfl

/-- Off the end of the way a walk only fills in the directories of the way. -/
theorem Passes.kindAt?_of_not_prefix
    (passes : Passes node names last final after)
    (isDirectory : node.kind = .directory)
    (clear : ¬ Blocked node names)
    {other : List String}
    (off : ¬ names <+: other) :
    after.kindAt? other = withDirectories node.kindAt? names other := by
  rw [withDirectories]
  by_cases isFront : other <+: names
  · obtain ⟨rest, rfl⟩ := isFront
    cases rest with
    | nil => simp at off
    | cons next rest =>
        rw [(passes.along other next rest rfl).1]
        cases found : node.kindAt? other with
        | none => simp
        | some kind =>
            have notFile : kind ≠ .file := by
              rintro rfl
              cases other with
              | nil => simp [isDirectory] at found
              | cons first other => exact clear ⟨_, by simp, by simp, found⟩
            cases kind with
            | file => exact absurd rfl notFile
            | directory => simp
  · rw [if_neg fun both => isFront both.1, kindAt?,
      passes.aside other off isFront]
    rfl

/-- A walk that leaves its last directory only fills in the directories of the
way. -/
theorem Passes.kindAt?_eq
    (passes : Passes node names last last after)
    (isDirectory : node.kind = .directory)
    (lastIsDirectory : last.kind = .directory)
    (clear : ¬ Blocked node names) :
    after.kindAt? = withDirectories node.kindAt? names := by
  funext other
  by_cases behind : names <+: other
  · obtain ⟨rest, rfl⟩ := behind
    rw [passes.withDirectories_append lastIsDirectory, kindAt?, passes.behind]
    rfl
  · exact passes.kindAt?_of_not_prefix isDirectory clear behind

/-- A walk that adds something to its last directory fills in the directories of
the way and adds this behind them. -/
theorem Passes.kindAt?_update
    (passes : Passes node names last final after)
    (isDirectory : node.kind = .directory)
    (lastIsDirectory : last.kind = .directory)
    (clear : ¬ Blocked node names)
    {kind : Kind}
    (added : final.kindAt? = Function.update last.kindAt? [name] (some kind)) :
    after.kindAt? =
      Function.update (withDirectories node.kindAt? names) (names ++ [name])
        (some kind) := by
  funext other
  by_cases behind : names <+: other
  · obtain ⟨rest, rfl⟩ := behind
    have gained : after.kindAt? (names ++ rest) = final.kindAt? rest :=
      congrArg _ (passes.behind rest)
    rw [gained, added]
    by_cases isName : rest = [name]
    · rw [isName, Function.update_self, Function.update_self]
    · rw [Function.update_of_ne isName,
        Function.update_of_ne (by simpa using isName),
        passes.withDirectories_append lastIsDirectory]
  · have other_ne : other ≠ names ++ [name] :=
      fun same => behind (same ▸ List.prefix_append _ _)
    rw [Function.update_of_ne other_ne]
    exact passes.kindAt?_of_not_prefix isDirectory clear behind

/-- A walk appends to the directories of the way, and to the last one what its
action does. -/
theorem Passes.appends
    (passes : Passes node names last final after)
    (appends : Appends last final) :
    Appends node after := by
  intro other
  by_cases behind : names <+: other
  · obtain ⟨rest, rfl⟩ := behind
    obtain ⟨new, got, fresh⟩ := appends rest
    refine ⟨new, ?_, fun name isNew => ?_⟩
    · have before : node.namesAt (names ++ rest) = last.namesAt rest := by
        rw [namesAt, namesAt, descend?_append]
        rcases passes.reached with found | ⟨missing, own, rfl⟩
        · rw [found]
          rfl
        · rw [missing]
          exact (namesAt_emptyDirectory own rest).symm
      rw [before, namesAt, passes.behind]
      exact got
    · rw [List.append_assoc, kindAt?_eq_none_iff, descend?_append, kindAt?,
        passes.behind]
      refine ⟨?_, (fresh name isNew).2⟩
      have missing := kindAt?_eq_none_iff.mp (fresh name isNew).1
      rcases passes.reached with found | ⟨nothing, -⟩
      · rw [found]
        exact missing
      · rw [nothing]
        rfl
  · by_cases front : other <+: names
    · obtain ⟨rest, rfl⟩ := front
      cases rest with
      | nil => simp at behind
      | cons next rest =>
          obtain ⟨-, got⟩ := passes.along other next rest rfl
          cases found : node.descend? (other ++ [next]) with
          | some child => exact ⟨none, by simpa [found] using got, by simp⟩
          | none =>
              refine ⟨some next, by simpa [found] using got,
                fun name isNew => ?_⟩
              obtain rfl : next = name := by simpa using isNew
              refine ⟨kindAt?_eq_none_iff.mpr found, ?_⟩
              cases rest with
              | nil =>
                  rw [kindAt?, ← List.append_nil (other ++ [next]),
                    passes.behind]
                  simp
              | cons second rest =>
                  rw [(passes.along (other ++ [next]) second rest (by simp)).1]
                  simp
    · refine ⟨none, ?_, by simp⟩
      rw [namesAt, passes.aside other behind front]
      simp [namesAt]

theorem appends_refl (tree : Tree) :
    Appends tree tree := fun _ => ⟨none, by simp, by simp⟩

/-! ## Files -/

/-- A file is added to a directory unless its name is taken. -/
theorem addFile_cases
    (wellFormed : WellFormed node)
    (isDirectory : node.kind = .directory)
    (name : String) :
    (∃ child, node.child? name = some child) ∧
      addFile name node = (node, false) ∨
      node.child? name = none ∧ (addFile name node).2 = true ∧
        Places node name (file name) (addFile name node).1 := by
  cases node with
  | file own => cases isDirectory
  | directory own children index =>
      rw [addFile, child?_directory]
      cases found : index.find? name with
      | none => exact .inr ⟨rfl, rfl, places_append wellFormed found rfl⟩
      | some position =>
          obtain ⟨child, held, -⟩ := wellFormed.child_exists found
          exact .inl ⟨⟨child, held⟩, rfl⟩

/-- Where a file is placed under a new name, it stands, and nothing else
changes. -/
theorem Places.kindAt?_file
    (places : Places node name (file name) after)
    (isDirectory : node.kind = .directory)
    (missing : node.child? name = none) :
    after.kindAt? = Function.update node.kindAt? [name] (some .file) := by
  funext other
  cases other with
  | nil =>
      rw [Function.update_of_ne (by simp), kindAt?_nil, kindAt?_nil,
        places.kind, isDirectory]
  | cons first rest =>
      rw [kindAt?_cons, places.child]
      by_cases same : first = name
      · subst same
        cases rest with
        | nil => simp
        | cons second rest =>
            rw [Function.update_of_ne (by simp), kindAt?_cons, missing,
              if_pos rfl]
            rfl
      · rw [if_neg same, Function.update_of_ne (by simp [same]), kindAt?_cons]

/-- A file that is placed under a new name comes last. -/
theorem Places.appends_file
    (places : Places node name (file name) after)
    (missing : node.child? name = none) :
    Appends node after := by
  intro other
  cases other with
  | nil =>
      refine ⟨some name, by simp [namesAt, places.names, missing],
        fun new isNew => ?_⟩
      obtain rfl : name = new := by simpa using isNew
      simp [missing, places.child]
  | cons first rest =>
      refine ⟨none, ?_, by simp⟩
      rw [namesAt, namesAt, descend?_cons, descend?_cons, places.child]
      by_cases same : first = name
      · subst same
        rw [missing, if_pos rfl]
        cases rest <;> simp [descend?, child?, position?]
      · simp [same]

/-! ## Mutations -/

/-- What making the directories of a path does, told by what stood where. -/
structure MakesDirectories
    (before : Tree)
    (path : String)
    (outcome : Tree × Except TreeError Bool) : Prop where
  /-- It fails exactly if a file is in the way. -/
  refused : outcome.2 = .error (.notADirectory path) ↔
    Blocked before (Path.components path)
  /-- Otherwise it answers whether anything on the way was missing. -/
  answered : ¬ Blocked before (Path.components path) →
    ∃ made, outcome.2 = .ok made ∧
    (made = true ↔
      ∃ front, front <+: Path.components path ∧ before.kindAt? front = none)
  /-- Then directories stand where something was missing on the way. -/
  kinds : ∀ made, outcome.2 = .ok made →
    outcome.1.kindAt? = withDirectories before.kindAt? (Path.components path)
  /-- Everything else keeps its order. -/
  order : ∀ made, outcome.2 = .ok made → Appends before outcome.1

/-- What creating the file of a path does, told by what stood where. -/
structure CreatesFile
    (before : Tree)
    (path : String)
    (outcome : Tree × Except TreeError Bool) : Prop where
  /-- Nothing is created at the root. -/
  root : Path.components path = [] → outcome = (before, .ok false)
  /-- It fails exactly if a file is in the way of the parents. -/
  refused : ∀ parents name, Path.components path = parents ++ [name] →
    (outcome.2 = .error (.notADirectory path) ↔ Blocked before parents)
  /-- Otherwise it answers whether nothing stood there. -/
  answered : ∀ parents name, Path.components path = parents ++ [name] →
    ¬ Blocked before parents →
      outcome.2 = .ok (before.kindAt? (Path.components path)).isNone
  /-- Then directories stand where a parent was missing. -/
  kinds : ∀ parents name added, Path.components path = parents ++ [name] →
    outcome.2 = .ok added →
      outcome.1.kindAt? =
        if added then
          Function.update (withDirectories before.kindAt? parents)
            (Path.components path) (some .file)
        else withDirectories before.kindAt? parents
  /-- What was created is found, and nothing is below it. -/
  childless : outcome.2 = .ok true →
    ∃ node, outcome.1.find? path = some node ∧ node.kind = .file ∧
    node.children = []
  /-- Everything else keeps its order. -/
  order : ∀ added, outcome.2 = .ok added → Appends before outcome.1

variable {tree : Tree}

theorem makesDirectories_makeDirectory
    (wellFormed : WellFormed tree)
    (isDirectory : tree.kind = .directory)
    (path : String) :
    MakesDirectories tree path (tree.makeDirectory path) := by
  by_cases blocked : Blocked tree (Path.components path)
  · have failed : (tree.makeDirectory path).2 =
        .error (.notADirectory path) := by
      simp only [makeDirectory,
        walk_of_blocked wellFormed isDirectory blocked path]
      rfl
    refine ⟨iff_of_true failed blocked, fun clear => absurd blocked clear, ?_,
      ?_⟩ <;>
      simp [failed]
  · have keepsName : ∀ node : Tree,
        ((fun node => (node, ())) node : Tree × Unit).1.name =
        node.name := fun _ => rfl
    obtain ⟨last, -, lastIsDirectory, passes, answer⟩ :=
      walk_of_clear keepsName wellFormed isDirectory blocked path
    have done : (tree.makeDirectory path).2 =
        .ok (tree.descend? (Path.components path)).isNone := by
      simp only [makeDirectory, answer]
      rfl
    refine ⟨iff_of_false (by simp [done]) blocked, fun _ => ⟨_, done, ?_⟩,
      fun _ _ => ?_,
      fun _ _ => passes.appends (appends_refl last)⟩
    · rw [Option.isNone_iff_eq_none]
      refine ⟨fun missing =>
        ⟨_, List.prefix_rfl, kindAt?_eq_none_iff.mpr missing⟩, ?_⟩
      rintro ⟨front, ⟨rest, isSplit⟩, missing⟩
      rw [← isSplit, descend?_append, kindAt?_eq_none_iff.mp missing]
      rfl
    · exact passes.kindAt?_eq isDirectory lastIsDirectory blocked

/-- The path of the root has no parents and no name. -/
theorem splitParent?_eq_none (atRoot : Path.components path = []) :
    Path.splitParent? path = none := by
  rw [Path.splitParent?, atRoot]
  rfl

theorem splitParent?_of_components
    {parents : List String}
    (isSplit : Path.components path = parents ++ [name]) :
    Path.splitParent? path = some (parents, name) := by
  rw [Path.splitParent?, isSplit, Path.splitLast?_append_singleton]

theorem createsFile_of_root (atRoot : Path.components path = []) :
    CreatesFile tree path (tree.createFile path) := by
  have idle : tree.createFile path = (tree, .ok false) := by
    rw [createFile, splitParent?_eq_none atRoot]
  have notSplit {parents : List String} {name : String} :
      Path.components path ≠ parents ++ [name] := by
    simp [atRoot]
  rw [idle]
  exact ⟨fun _ => rfl, fun _ _ isSplit => absurd isSplit notSplit,
    fun _ _ isSplit => absurd isSplit notSplit,
    fun _ _ _ isSplit => absurd isSplit notSplit, by simp,
    fun _ _ => appends_refl tree⟩

/-- What is said of the file of a path is said for its parents and its name. -/
theorem createsFile_of_split
    {parents : List String}
    (isSplit : Path.components path = parents ++ [name])
    {outcome : Tree × Except TreeError Bool}
    (refused : outcome.2 = .error (.notADirectory path) ↔ Blocked tree parents)
    (answered : ¬ Blocked tree parents →
      outcome.2 = .ok (tree.kindAt? (Path.components path)).isNone)
    (kinds : ∀ added, outcome.2 = .ok added →
      outcome.1.kindAt? =
        if added then
          Function.update (withDirectories tree.kindAt? parents)
            (Path.components path) (some .file)
        else withDirectories tree.kindAt? parents)
    (order : ∀ added, outcome.2 = .ok added → Appends tree outcome.1) :
    CreatesFile tree path outcome := by
  have same {others : List String} {other : String}
      (also : Path.components path = others ++ [other]) : parents = others :=
    List.append_inj_left' (isSplit.symm.trans also) rfl
  refine ⟨by simp [isSplit], fun _ _ also => same also ▸ refused,
    fun _ _ also => same also ▸ answered,
    fun _ _ added also => same also ▸ kinds added,
    fun added => ?_, order⟩
  have isFile : outcome.1.kindAt? (Path.components path) = some .file := by
    simp [kinds true added]
  rw [kindAt?_components] at isFile
  obtain ⟨node, found, isKind⟩ := Option.map_eq_some_iff.mp isFile
  refine ⟨node, found, isKind, ?_⟩
  cases node with
  | file own => rfl
  | directory own children index => cases isKind

theorem createsFile_createFile
    (wellFormed : WellFormed tree)
    (isDirectory : tree.kind = .directory)
    (path : String) :
    CreatesFile tree path (tree.createFile path) := by
  rcases List.eq_nil_or_concat' (Path.components path) with
    atRoot | ⟨parents, name, isSplit⟩
  · exact createsFile_of_root atRoot
  · have answers : tree.createFile path =
        ((tree.walk path (addFile name) parents).1,
          (tree.walk path (addFile name) parents).2.map Prod.snd) := by
      simp only [createFile, splitParent?_of_components isSplit]
    rw [answers]
    by_cases blocked : Blocked tree parents
    · have failed :=
        walk_of_blocked wellFormed isDirectory blocked path (addFile name)
      refine createsFile_of_split isSplit ?_ (fun clear => absurd blocked clear)
        ?_ ?_
      · exact iff_of_true (by rw [failed]; rfl) blocked
      · simp [failed, Except.map]
      · simp [failed, Except.map]
    · obtain ⟨last, lastWellFormed, lastIsDirectory, passes, answer⟩ :=
        walk_of_clear (name_addFile name) wellFormed isDirectory blocked path
      have stands : tree.kindAt? (parents ++ [name]) =
          (last.child? name).map kind := by
        have way := passes.withDirectories_append lastIsDirectory [name]
        rw [withDirectories,
          if_neg fun both => not_append_prefix parents (by simp) both.1] at way
        rw [way, kindAt?, descend?_cons]
        cases last.child? name <;> simp
      rcases addFile_cases lastWellFormed lastIsDirectory name with
        ⟨⟨child, isChild⟩, same⟩ | ⟨missing, isAdded, places⟩
      · rw [same] at passes answer
        refine createsFile_of_split isSplit
          (iff_of_false (by simp [answer, Except.map]) blocked) (fun _ => ?_)
          (fun added isAnswer => ?_) fun _ _ =>
            passes.appends (appends_refl last)
        · simp [answer, isSplit, stands, isChild, Except.map]
        · obtain rfl : false = added := by
            simpa [answer, Except.map] using isAnswer
          exact passes.kindAt?_eq isDirectory lastIsDirectory blocked
      · rw [isAdded] at answer
        refine createsFile_of_split isSplit
          (iff_of_false (by simp [answer, Except.map]) blocked) (fun _ => ?_)
          (fun added isAnswer => ?_) fun _ _ =>
            passes.appends (places.appends_file missing)
        · simp [answer, isSplit, stands, missing, Except.map]
        · obtain rfl : true = added := by
            simpa [answer, Except.map] using isAnswer
          rw [isSplit]
          exact passes.kindAt?_update isDirectory lastIsDirectory blocked
            (places.kindAt?_file lastIsDirectory missing)

/-- Mutations are described by what stands where: in every well-formed namespace
they fail exactly if a file is in the way, answer whether something was missing,
and change the map of the namespace only where it was, behind everything that
each directory held. -/
theorem mutations_refine_kinds
    (wellFormed : WellFormed tree)
    (isDirectory : tree.kind = .directory)
    (path : String) :
    MakesDirectories tree path (tree.makeDirectory path) ∧
      CreatesFile tree path (tree.createFile path) :=
  ⟨makesDirectories_makeDirectory wellFormed isDirectory path,
    createsFile_createFile wellFormed isDirectory path⟩

/-- A namespace with a directory and a file in it. -/
def sampleTree : Tree :=
  (root.absorb (.createFile "/a/f")).absorb (.makeDirectory "/a/b")

/-- A path through a file, with a blank segment and without a slash in front. -/
theorem mutations_refine_kinds_through_file :
    WellFormed sampleTree ∧ sampleTree.kind = .directory ∧
      MakesDirectories sampleTree "a/ /f//c"
        (sampleTree.makeDirectory "a/ /f//c") ∧
      CreatesFile sampleTree "a/ /f//c" (sampleTree.createFile "a/ /f//c") :=
  have wellFormed : WellFormed sampleTree := (wellFormed_root.absorb _).absorb _
  have isDirectory : sampleTree.kind = .directory := by decide +kernel
  ⟨wellFormed, isDirectory,
    mutations_refine_kinds wellFormed isDirectory "a/ /f//c"⟩

end Tree
end NameService
