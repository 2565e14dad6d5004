/-!
# Name indices

A search tree from names to positions, ordered by the order of texts. A
directory uses it to find a child without walking its list of children.
-/

namespace NameService

/-- A search tree from names to positions. -/
inductive NameIndex
  | empty
  | node (left : NameIndex) (name : String) (position : Nat) (right : NameIndex)
  deriving DecidableEq, Repr

namespace NameIndex

/-- The position of a name. -/
def find? : NameIndex → String → Option Nat
  | empty, _ => none
  | node left key position right, name =>
      if name = key then some position
      else if name < key then left.find? name
      else right.find? name

@[simp] theorem find?_empty (name : String) : empty.find? name = none := rfl

/-- Put a name at a position, in place of its former one if it had any. -/
def insert : NameIndex → String → Nat → NameIndex
  | empty, name, position => node empty name position empty
  | node left key old right, name, position =>
      if name = key then node left key position right
      else if name < key then node (left.insert name position) key old right
      else node left key old (right.insert name position)

@[simp] theorem find?_insert_self
    (index : NameIndex)
    (name : String)
    (position : Nat) :
    (index.insert name position).find? name = some position := by
  induction index with
  | empty => simp [insert, find?]
  | node left key old right leftHypothesis rightHypothesis =>
      by_cases same : name = key
      · simp [insert, find?, same]
      · by_cases below : name < key <;>
          simp [insert, find?, same, below, leftHypothesis, rightHypothesis]

theorem find?_insert_of_ne
    (index : NameIndex)
    {name other : String}
    (distinct : other ≠ name)
    (position : Nat) : (index.insert name position).find? other =
      index.find? other := by
  induction index with
  | empty => simp [insert, find?, distinct]
  | node left key old right leftHypothesis rightHypothesis =>
      by_cases same : name = key
      · subst same
        simp [insert, find?, distinct]
      · by_cases below : name < key <;> by_cases otherSame : other = key <;>
          by_cases otherBelow : other < key <;>
          simp [insert, find?, same, below, otherSame, otherBelow,
            leftHypothesis, rightHypothesis]

theorem find?_insert
    (index : NameIndex)
    (name other : String)
    (position : Nat) :
    (index.insert name position).find? other =
      if other = name then some position else index.find? other := by
  by_cases same : other = name
  · simp [same]
  · simp [same, find?_insert_of_ne]

end NameIndex
end NameService
