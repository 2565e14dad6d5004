import NameService.Tree.Mutation

/-!
# Images

An image is a whole namespace under the last transaction id it covers. It is
kept flat: the nodes in pre-order, each with the position of its parent, so deep
trees do not nest. A list of entries is an image if the first one is the root
directory and every other one has an earlier directory as its parent, a usable
name, and no sibling of that name.
-/

namespace NameService

/-- A namespace and the last transaction id it covers. -/
structure Image where
  txid : Nat
  root : Tree
  deriving Repr

namespace Image

/-- One node of an image. -/
structure Entry where
  /-- The position of the parent; only the root has none. -/
  parent : Option Nat
  /-- The name of the node. -/
  name : String
  /-- Whether the node is a directory or a file. -/
  kind : Kind
  deriving DecidableEq, Repr

mutual

/-- The entries of a tree whose first entry stands at a position. -/
def entriesFrom (parent : Option Nat) (position : Nat) : Tree → List Entry
  | .file name => [⟨parent, name, .file⟩]
  | .directory name children _ =>
      ⟨parent, name, .directory⟩ ::
        entriesOfChildren position (position + 1) children

/-- The entries of the children of the node at a position, from the next free
position on. -/
def entriesOfChildren (parent next : Nat) : List Tree → List Entry
  | [] => []
  | child :: rest =>
      entriesFrom (some parent) next child ++
        entriesOfChildren parent (next + child.size) rest

end

/-- The entries of a tree in pre-order. -/
def entries (tree : Tree) : List Entry := entriesFrom none 0 tree

/-- Whether an entry can be the first of an image. -/
def Entry.isRoot (entry : Entry) : Bool :=
  entry.parent.isNone && entry.name == Tree.rootName && entry.kind == .directory

/-- Whether a name can stand below the root. -/
def usableName (name : String) : Bool :=
  name != "" && !name.toList.contains Path.separator

/-- The trees that wait for the node of a position, in order. -/
def waitingFor (position : Nat) (pending : List (Nat × Tree)) : List Tree :=
  (pending.filter fun (parent, _) => parent == position).map Prod.snd

/-- The trees that wait for other nodes than that of a position. -/
def waitingElsewhere (position : Nat) (pending : List (Nat × Tree)) :
    List (Nat × Tree) :=
  pending.filter fun (parent, _) => parent != position

/-- Build the tree of numbered entries, last first. Parents stand earlier, so a
node is finished before its parent is reached; it waits there as `pending`. -/
def assembleFrom :
    List (Entry × Nat) → List (Nat × Tree) → Except TreeError Tree
  | [], _ => .error (.codec (.badRoot none))
  | (entry, position) :: earlier, pending => do
      let node ← (Tree.leaf entry.kind entry.name).pushAll
        (waitingFor position pending)
      if position = 0 then pure node
      else
        match entry.parent with
        | none => .error (.codec (.noEarlierParent position entry.name))
        | some parent =>
            if parent < position then
              if usableName entry.name then
                assembleFrom earlier
                  ((parent, node) :: waitingElsewhere position pending)
              else .error (.codec (.invalidName entry.name))
            else .error (.codec (.noEarlierParent position entry.name))

/-- The tree of a list of entries. -/
def assemble (entries : List Entry) : Except TreeError Tree :=
  match entries with
  | [] => .error (.codec (.badRoot none))
  | first :: _ =>
      if first.isRoot then assembleFrom entries.zipIdx.reverse []
      else .error (.codec (.badRoot (some first.name)))

/-- The root of an image as a namespace, which has to be a directory. -/
def namespaceRoot (root : Tree) : Except TreeError Tree :=
  if root.isFile then .error (.notADirectory root.name) else .ok root

end Image
end NameService
