import NameService.Text.Blank
import NameService.Text.Split

/-!
# Paths

A path is a text whose segments are separated by slashes. Empty and blank
segments do not count, so the empty path and `//` both name the root, and
`/a//b/` has the components `a` and `b`.
-/

namespace NameService
namespace Path

/-- The separator of path segments. -/
def separator : Char := '/'

/-- The non-blank segments of a text, in order. -/
def segments (text : List Char) : List (List Char) :=
  (Text.split (· == separator) text).filter fun segment =>
    !Text.allBlank segment

/-- The names on the way from the root to the entry that a path names. -/
def components (path : String) : List String :=
  (segments path.toList).map String.ofList

/-- A list split into all but the last item, and the last. -/
def splitLast? : List α → Option (List α × α)
  | [] => none
  | x :: rest =>
      match splitLast? rest with
      | none => some ([], x)
      | some (front, last) => some (x :: front, last)

@[simp] theorem splitLast?_nil : splitLast? ([] : List α) = none := rfl

theorem splitLast?_append_singleton (front : List α) (last : α) :
    splitLast? (front ++ [last]) = some (front, last) := by
  induction front with
  | nil => rfl
  | cons x front hypothesis => simp [splitLast?, hypothesis]

/-- The components of the parent and the name of the entry, unless the path
names the root. -/
def splitParent? (path : String) : Option (List String × String) :=
  splitLast? (components path)

example : components "/usr/warehouse/hive" = ["usr", "warehouse", "hive"] := by
  decide
example : components "/ /a" = ["a"] ∧ components "///" = [] := by decide

end Path
end NameService
