import NameService.Digest.Blake3
import NameService.Text.Utf8
import NameService.Tree.Basic
import NameService.Word

/-!
# Digests of namespaces

A namespace is fed to the hash as its nodes in pre-order. Each node gives its
kind, the length and the bytes of its name, and the number of its children, so
the fed bytes determine the tree.
-/

namespace NameService
namespace Tree

/-- The byte that stands for a kind. -/
def kindByte : Kind → UInt8
  | .directory => 0
  | .file => 1

/-- The bytes of one node, without its children. -/
def headerBytes (kind : Kind) (name : String) (childCount : Nat) : List UInt8 :=
  let nameBytes := Text.utf8 name.toList
  kindByte kind :: Word.littleEndian nameBytes.length ++ nameBytes ++
    Word.littleEndian childCount

mutual

/-- The bytes of a tree. -/
def digestInput : Tree → List UInt8
  | file name => headerBytes .file name 0
  | directory name children _ =>
      headerBytes .directory name children.length ++ digestInputAll children

/-- The bytes of trees one after the other. -/
def digestInputAll : List Tree → List UInt8
  | [] => []
  | node :: rest => digestInput node ++ digestInputAll rest

end

/-- Bytes as two hexadecimal digits each, in lower case. -/
def hexText (bytes : List UInt8) : String :=
  String.ofList (bytes.flatMap fun byte =>
    [Nat.digitChar (byte.toNat / 16), Nat.digitChar (byte.toNat % 16)])

/-- The digest of a tree. -/
def digest (tree : Tree) : String := hexText (Blake3.hash tree.digestInput)

end Tree
end NameService
