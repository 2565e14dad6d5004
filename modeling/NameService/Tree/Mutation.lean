import NameService.Tree.Basic
import NameService.Edit
import NameService.Path

/-!
# Mutating a namespace

Walking down a path and making what is missing. A walk answers with the tree it
leaves behind even when it fails, since the directories made before the failing
step stay.
-/

namespace NameService
namespace Tree

/-- Walk down `names`, making every missing directory, and act on the directory
at the end. The answer tells whether a directory was made, and what the action
answers. The path names the walk in errors. -/
def walk (path : String) (action : Tree → Tree × α) :
    Tree → List String → Tree × Except TreeError (Bool × α)
  | node, [] =>
      let (node, answer) := action node
      (node, .ok (false, answer))
  | file name, _ :: _ => (file name, .error (.notADirectory path))
  | directory own children index, name :: names =>
      match index.find? name with
      | none =>
          let (child, answer) := walk path action (emptyDirectory name) names
          (directory own (children ++ [child])
            (index.insert name children.length),
            answer.map fun (_, answer) => (true, answer))
      | some position =>
          match children[position]? with
          | none => (directory own children index, .error (.notADirectory path))
          | some child =>
              if child.isFile then
                (directory own children index, .error (.notADirectory path))
              else
                let (child, answer) := walk path action child names
                (directory own (children.set position child) index, answer)

/-- Make every missing directory of a path. The answer tells whether any was
made. -/
def makeDirectory (tree : Tree) (path : String) :
    Tree × Except TreeError Bool :=
  let (tree, answer) :=
    tree.walk path (fun node => (node, ())) (Path.components path)
  (tree, answer.map Prod.fst)

/-- Add a file to a directory unless the name is taken. -/
def addFile (name : String) : Tree → Tree × Bool
  | file own => (file own, false)
  | directory own children index =>
      match index.find? name with
      | some _ => (directory own children index, false)
      | none =>
          (directory own (children ++ [file name])
            (index.insert name children.length), true)

/-- Create a file and the missing directories above it. The answer is `false`
if the name is taken or the path names the root. -/
def createFile (tree : Tree) (path : String) : Tree × Except TreeError Bool :=
  match Path.splitParent? path with
  | none => (tree, .ok false)
  | some (parents, name) =>
      let (tree, answer) := tree.walk path (addFile name) parents
      (tree, answer.map Prod.snd)

/-- Carry out a mutation. -/
def apply (tree : Tree) : Operation → Tree × Except TreeError Bool
  | .makeDirectory path => tree.makeDirectory path
  | .createFile path => tree.createFile path

/-- Carry out a mutation and forget the answer, also if it failed. -/
def absorb (tree : Tree) (operation : Operation) : Tree :=
  (tree.apply operation).1

/-- Resolve a path. -/
def find? (tree : Tree) (path : String) : Option Tree :=
  tree.descend? (Path.components path)

end Tree
end NameService
