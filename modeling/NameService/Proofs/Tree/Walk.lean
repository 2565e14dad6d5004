import NameService.Tree.Mutation

/-!
# What a walk leaves alone

A walk keeps the name and the kind of the node it starts from. It makes
directories only where nothing stood, and below a directory that it made nothing
is in its way, so a walk that fails has made nothing. Mutations inherit this:
one that fails leaves the namespace as it was.
-/

namespace NameService
namespace Tree

variable {α : Type} {path : String} {action : Tree → Tree × α}

@[simp] theorem walk_nil (node : Tree) :
    walk path action node [] =
      ((action node).1, .ok (false, (action node).2)) := by
  simp [walk]

/-- Storing an item where it stands already changes nothing. -/
theorem set_of_getElem?_eq_some
    {children : List Tree}
    {position : Nat}
    {child : Tree}
    (held : children[position]? = some child) :
    children.set position child = children := by
  obtain ⟨inside, rfl⟩ := List.getElem?_eq_some_iff.mp held
  exact List.set_getElem_self inside

/-- A walk keeps the name of its first node if its action keeps names. -/
theorem name_walk
    (keepsName : ∀ node, (action node).1.name = node.name)
    (node : Tree)
    (names : List String) :
    (walk path action node names).1.name = node.name := by
  fun_induction walk path action node names with
  | case1 node after answer acted => simpa [acted] using keepsName node
  | _ => rfl

/-- A walk keeps the kind of its first node if its action keeps kinds. -/
theorem kind_walk
    (keepsKind : ∀ node, (action node).1.kind = node.kind)
    (node : Tree)
    (names : List String) :
    (walk path action node names).1.kind = node.kind := by
  fun_induction walk path action node names with
  | case1 node after answer acted => simpa [acted] using keepsKind node
  | _ => rfl

/-- Nothing is in the way of a walk down from an empty directory. -/
theorem walk_emptyDirectory
    (path : String)
    (action : Tree → Tree × α)
    (own : String)
    (names : List String) :
    (walk path action (emptyDirectory own) names).2 =
      .ok (!names.isEmpty,
        (action (emptyDirectory (names.getLastD own))).2) := by
  induction names generalizing own with
  | nil => rfl
  | cons name names hypothesis =>
      change ((walk path action (emptyDirectory name) names).2.map
        fun answer => (true, answer.2)) = _
      rw [hypothesis name]
      cases names <;> rfl

/-- A walk that fails leaves its first node as it was. -/
theorem walk_unchanged_of_error
    {node : Tree}
    {names : List String}
    {cause : TreeError}
    (failed : (walk path action node names).2 = .error cause) :
    (walk path action node names).1 = node := by
  fun_induction walk path action node names with
  | case1 node after answer acted => cases failed
  | case2 own name names => rfl
  | case3 own children index name names missing child answer walked
    hypothesis =>
      have passes := walk_emptyDirectory path action name names
      rw [walked] at passes
      subst passes
      cases failed
  | case4 own children index name names position found missing => rfl
  | case5 own children index name names position found child held isFile => rfl
  | case6 own children index name names position found child held isDirectory
    after answer walked hypothesis =>
      have same := hypothesis (by rw [walked]; exact failed)
      rw [walked] at same
      rw [show after = child from same, set_of_getElem?_eq_some held]

/-- A walk at whose end the action did nothing leaves its first node as it was,
if the action does something in every empty directory. -/
theorem walk_unchanged_of_idle
    {idle : α}
    (keeps : ∀ node, (action node).2 = idle → (action node).1 = node)
    (acts : ∀ own, (action (emptyDirectory own)).2 ≠ idle)
    {node : Tree}
    {names : List String}
    {made : Bool}
    (ended : (walk path action node names).2 = .ok (made, idle)) :
    (walk path action node names).1 = node := by
  fun_induction walk path action node names generalizing made with
  | case1 node after answer acted =>
      have same : answer = idle := by
        injection ended with pair; exact (Prod.mk.inj pair).2
      simpa [acted] using keeps node (by simpa [acted] using same)
  | case2 own name names => rfl
  | case3 own children index name names missing child answer walked
    hypothesis =>
      have passes := walk_emptyDirectory path action name names
      rw [walked] at passes
      subst passes
      injection ended with pair
      exact absurd (Prod.mk.inj pair).2 (acts _)
  | case4 own children index name names position found missing => rfl
  | case5 own children index name names position found child held isFile => rfl
  | case6 own children index name names position found child held isDirectory
    after answer walked hypothesis =>
      have stillEnded : (walk path action child names).2 =
          .ok (made, idle) := by
        rw [walked]
        exact ended
      have same := hypothesis stillEnded
      rw [walked] at same
      rw [show after = child from same, set_of_getElem?_eq_some held]

/-! ## Mutations -/

theorem name_addFile (name : String) (node : Tree) :
    (addFile name node).1.name = node.name := by
  cases node with
  | file own => rfl
  | directory own children index =>
      simp only [addFile]
      split <;> rfl

theorem kind_addFile (name : String) (node : Tree) :
    (addFile name node).1.kind = node.kind := by
  cases node with
  | file own => rfl
  | directory own children index =>
      simp only [addFile]
      split <;> rfl

/-- A file that is not added changes nothing. -/
theorem addFile_unchanged_of_false
    {name : String}
    {node : Tree}
    (refused : (addFile name node).2 = false) :
    (addFile name node).1 = node := by
  cases node with
  | file own => rfl
  | directory own children index =>
      cases found : index.find? name with
      | none => simp [addFile, found] at refused
      | some position => simp [addFile, found]

/-- Making a directory changes nothing if it fails. -/
theorem makeDirectory_unchanged_of_error
    {tree : Tree}
    {cause : TreeError}
    (failed : (tree.makeDirectory path).2 = .error cause) :
    (tree.makeDirectory path).1 = tree := by
  simp only [makeDirectory] at failed ⊢
  cases answer :
    (tree.walk path (fun node => (node, ())) (Path.components path)).2 with
  | error other => exact walk_unchanged_of_error answer
  | ok pair => simp [answer, Except.map] at failed

/-- Creating a file changes nothing if it fails. -/
theorem createFile_unchanged_of_error
    {tree : Tree}
    {cause : TreeError}
    (failed : (tree.createFile path).2 = .error cause) :
    (tree.createFile path).1 = tree := by
  simp only [createFile] at failed ⊢
  cases split : Path.splitParent? path with
  | none => rfl
  | some pair =>
      obtain ⟨parents, name⟩ := pair
      simp only [split] at failed ⊢
      cases answer : (tree.walk path (addFile name) parents).2 with
      | error other => exact walk_unchanged_of_error answer
      | ok pair => simp [answer, Except.map] at failed

/-- Creating a file changes nothing if the answer is that none was created. -/
theorem createFile_unchanged_of_false
    {tree : Tree}
    (refused : (tree.createFile path).2 = .ok false) :
    (tree.createFile path).1 = tree := by
  simp only [createFile] at refused ⊢
  cases split : Path.splitParent? path with
  | none => rfl
  | some pair =>
      obtain ⟨parents, name⟩ := pair
      simp only [split] at refused ⊢
      cases answer : (tree.walk path (addFile name) parents).2 with
      | error other => simp [answer, Except.map] at refused
      | ok pair =>
          obtain ⟨made, added⟩ := pair
          have notAdded : added = false := by
            simpa [answer, Except.map] using refused
          subst notAdded
          exact walk_unchanged_of_idle (fun _ => addFile_unchanged_of_false)
            (fun own => by simp [addFile, emptyDirectory]) answer

end Tree
end NameService
