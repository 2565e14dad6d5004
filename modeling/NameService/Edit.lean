/-!
# Edits

The mutations of the namespace, and the records in which they are logged under
the transaction id that the writer gave them.
-/

namespace NameService

/-- A mutation of the namespace. -/
inductive Operation
  /-- Make a directory and every missing one above it. -/
  | makeDirectory (path : String)
  /-- Create a file and every missing directory above it. -/
  | createFile (path : String)
  deriving DecidableEq, Repr

namespace Operation

/-- The path that a mutation is about. -/
def path : Operation → String
  | makeDirectory path => path
  | createFile path => path

/-- The name of a mutation in records. -/
def keyword : Operation → String
  | makeDirectory _ => "MKDIR"
  | createFile _ => "CREATE"

/-- The mutation of a name, at a path. -/
def ofKeyword? (keyword path : String) : Option Operation :=
  if keyword = "MKDIR" then some (makeDirectory path)
  else if keyword = "CREATE" then some (createFile path)
  else none

/-- The mutation of a number, at a path. -/
def ofOrdinal? (ordinal : Nat) (path : String) : Option Operation :=
  match ordinal with
  | 0 => some (makeDirectory path)
  | 1 => some (createFile path)
  | _ => none

@[simp] theorem ofKeyword?_keyword (operation : Operation) :
    ofKeyword? operation.keyword operation.path = some operation := by
  cases operation <;> simp [ofKeyword?, keyword, path]

end Operation

/-- A mutation under its transaction id. -/
structure Record where
  txid : Nat
  operation : Operation
  deriving DecidableEq, Repr

end NameService
