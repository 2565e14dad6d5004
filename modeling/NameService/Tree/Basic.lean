import NameService.Tree.Index
import NameService.Tree.Error

/-!
# Namespace trees

A node is a file or a directory. A directory owns its children, keeps them in
the order in which they were added, and finds them by name through an index of
their positions.
-/

namespace NameService

/-- What an entry of the namespace is. -/
inductive Kind
  | directory
  | file
  deriving DecidableEq, Repr

/-- A node of the namespace with everything below it. -/
inductive Tree
  | file (name : String)
  | directory (name : String) (children : List Tree) (index : NameIndex)
  deriving Repr

namespace Tree

/-- The name of the root directory. -/
def rootName : String := "/"

/-- The name of a node. -/
def name : Tree → String
  | file name => name
  | directory name _ _ => name

@[simp] theorem name_file (name : String) : (file name).name = name := rfl

@[simp] theorem name_directory
    (name : String)
    (children : List Tree)
    (index : NameIndex) :
    (directory name children index).name = name := rfl

/-- The kind of a node. -/
def kind : Tree → Kind
  | file _ => .file
  | directory _ _ _ => .directory

@[simp] theorem kind_file (name : String) : (file name).kind = .file := rfl

@[simp] theorem kind_directory
    (name : String)
    (children : List Tree)
    (index : NameIndex) :
    (directory name children index).kind = .directory := rfl

/-- The children of a node in the order in which they were added. -/
def children : Tree → List Tree
  | file _ => []
  | directory _ children _ => children

@[simp] theorem children_file (name : String) : (file name).children = [] := rfl

@[simp] theorem children_directory
    (name : String)
    (children : List Tree)
    (index : NameIndex) :
    (directory name children index).children = children := rfl

/-- Whether a node is a file. -/
def isFile (node : Tree) : Bool := node.kind == .file

@[simp] theorem isFile_file (name : String) : (file name).isFile = true := rfl

@[simp] theorem isFile_directory
    (name : String)
    (children : List Tree)
    (index : NameIndex) :
    (directory name children index).isFile = false := rfl

/-- A directory without children. -/
def emptyDirectory (name : String) : Tree := directory name [] .empty

/-- A node without children. -/
def leaf : Kind → String → Tree
  | .file, name => file name
  | .directory, name => emptyDirectory name

@[simp] theorem name_leaf (kind : Kind) (name : String) :
    (leaf kind name).name = name := by
  cases kind <;> rfl

@[simp] theorem kind_leaf (kind : Kind) (name : String) :
    (leaf kind name).kind = kind := by
  cases kind <;> rfl

/-- The root of an empty namespace. -/
def root : Tree := emptyDirectory rootName

/-- The position that the index gives to a name. -/
def position? : Tree → String → Option Nat
  | file _, _ => none
  | directory _ _ index, name => index.find? name

/-- The child of a name, found through the index. -/
def child? (node : Tree) (name : String) : Option Tree := do
  node.children[← node.position? name]?

/-- Add a child behind the others. Files take none, and names are unique. -/
def push : Tree → Tree → Except TreeError Tree
  | file name, _ => .error (.notADirectory name)
  | directory name children index, child =>
      match index.find? child.name with
      | some _ => .error (.codec (.duplicateChild child.name name))
      | none =>
          .ok (directory name (children ++ [child])
            (index.insert child.name children.length))

/-- Add children in order, up to the first that is refused. -/
def pushAll (node : Tree) : List Tree → Except TreeError Tree
  | [] => .ok node
  | child :: rest => do (← node.push child).pushAll rest

/-- Resolve names from a node downwards. -/
def descend? : Tree → List String → Option Tree
  | node, [] => some node
  | node, name :: names => do (← node.child? name).descend? names

@[simp] theorem descend?_nil (node : Tree) : node.descend? [] = some node := by
  simp [descend?]

@[simp] theorem descend?_cons
    (node : Tree)
    (name : String)
    (names : List String) :
    node.descend? (name :: names) =
      (node.child? name).bind (·.descend? names) := rfl

mutual

/-- How many directories a tree has. -/
def directoryCount : Tree → Nat
  | file _ => 0
  | directory _ children _ => directoryCountAll children + 1

/-- How many directories the trees of a list have. -/
def directoryCountAll : List Tree → Nat
  | [] => 0
  | node :: rest => directoryCount node + directoryCountAll rest

end

mutual

/-- How many files a tree has. -/
def fileCount : Tree → Nat
  | file _ => 1
  | directory _ children _ => fileCountAll children

/-- How many files the trees of a list have. -/
def fileCountAll : List Tree → Nat
  | [] => 0
  | node :: rest => fileCount node + fileCountAll rest

end

mutual

/-- How many nodes a tree has. -/
def size : Tree → Nat
  | file _ => 1
  | directory _ children _ => sizeAll children + 1

/-- How many nodes the trees of a list have. -/
def sizeAll : List Tree → Nat
  | [] => 0
  | node :: rest => size node + sizeAll rest

end

mutual

/-- The nodes of a tree in pre-order, with their depths, names and kinds. -/
def outlineFrom (depth : Nat) : Tree → List (Nat × String × Kind)
  | file name => [(depth, name, .file)]
  | directory name children _ =>
      (depth, name, .directory) :: outlineAll (depth + 1) children

/-- The nodes of trees of one depth, one tree after the other. -/
def outlineAll (depth : Nat) : List Tree → List (Nat × String × Kind)
  | [] => []
  | node :: rest => outlineFrom depth node ++ outlineAll depth rest

end

/-- The nodes of a tree in pre-order, the root at depth zero. -/
def outline (tree : Tree) : List (Nat × String × Kind) := outlineFrom 0 tree

end Tree
end NameService
