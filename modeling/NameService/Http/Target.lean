/-!
# Request targets

What a request is addressed to. A target is a path with a query, the same behind
a scheme and an authority, an authority alone, or an asterisk. Routes see its
path and its query only: a fragment is dropped, nothing is decoded, and an
authority alone has the empty path.
-/

namespace NameService
namespace Http

/-- The parts of a request target that routes see. -/
structure Target where
  path : List Char
  /-- The text behind the question mark; empty if there is none. -/
  query : List Char
  deriving DecidableEq, Repr

namespace Target

/-! ## Characters -/

/-- Whether a character may stand in a path. -/
def isPathChar (c : Char) : Bool := 0x20 < c.toNat && !"#?<>`".toList.contains c

/-- Whether a character may stand in a query. -/
def isQueryChar (c : Char) : Bool :=
  0x20 < c.toNat && !"\"#<>".toList.contains c

/-- Whether a character may stand in a scheme. -/
def isSchemeChar (c : Char) : Bool := c.isAlphanum || "+-.~".toList.contains c

/-- Whether a character may stand in an authority. -/
def isAuthorityChar (c : Char) : Bool :=
  c.isAlphanum || "!$%&'()*+,-.:;=@[]_~".toList.contains c

/-- Whether a character ends an authority. -/
def endsAuthority (c : Char) : Bool := c == '/' || c == '?' || c == '#'

/-! ## Authorities -/

/-- What was seen of an authority: its brackets, and the colons and percent
signs behind its last `@` or closing bracket. -/
structure Sighting where
  colons : Nat
  percent : Bool
  opened : Bool
  closed : Bool
  /-- Whether nothing stands behind the last `@`. -/
  endsInAt : Bool
  deriving DecidableEq, Repr

namespace Sighting

/-- Nothing was seen. -/
def start : Sighting := ⟨0, false, false, false, false⟩

/-- Take in the next character. There is one pair of brackets at most, no
percent sign in front of it, and never more than eight colons in a row of
parts. -/
def next? (seen : Sighting) (c : Char) : Option Sighting :=
  let moved := { seen with endsInAt := false }
  if c = ':' then
    if seen.colons < 8 then some { moved with colons := seen.colons + 1 } else
      none
  else if c = '[' then
    if seen.percent || seen.opened then none else
      some { moved with opened := true }
  else if c = ']' then
    if !seen.opened || seen.closed then none
    else some { moved with closed := true, colons := 0, percent := false }
  else if c = '@' then
    some { moved with colons := 0, percent := false, endsInAt := true }
  else if c = '%' then some { moved with percent := true }
  else if isAuthorityChar c then some moved
  else none

/-- Whether an authority may end here: brackets are closed, a host stands behind
the user, and it has one port at most and no percent sign. -/
def mayEnd (seen : Sighting) : Bool :=
  seen.opened == seen.closed && decide (seen.colons ≤ 1) && !seen.endsInAt &&
    !seen.percent

end Sighting

/-- Whether a text is an authority. -/
def isAuthority (text : List Char) : Bool :=
  !text.isEmpty &&
    ((text.foldlM Sighting.next? Sighting.start).map Sighting.mayEnd).getD false

/-! ## Targets -/

/-- How many bytes a target has at most. -/
def maxLength : Nat := 65534

/-- How many characters a scheme has at most. -/
def maxSchemeLength : Nat := 64

/-- The target of a path with a query. The empty path stands for the root. -/
def ofPath? (text : List Char) : Option Target :=
  let text := text.takeWhile (· != '#')
  let path := text.takeWhile (· != '?')
  let query := (text.dropWhile (· != '?')).drop 1
  if path.all isPathChar && query.all isQueryChar then
    some ⟨if path.isEmpty then ['/'] else path, query⟩
  else none

/-- The text behind a scheme, if there is one. -/
def behindScheme? (text : List Char) : Option (List Char) :=
  match text.span isSchemeChar with
  | (scheme, ':' :: '/' :: '/' :: rest) =>
      if scheme.length ≤ maxSchemeLength then some rest else none
  | _ => none

/-- The target that a text is, if it is one. -/
def ofText? (uri : String) : Option Target :=
  let text := uri.toList
  if maxLength < uri.utf8ByteSize then none
  else if text.head? = some '/' then ofPath? text
  else if text = ['*'] then some ⟨text, []⟩
  else
    match behindScheme? text with
    | none => if isAuthority text then some ⟨[], []⟩ else none
    | some rest =>
        if isAuthority (rest.takeWhile fun c => !endsAuthority c) then
          ofPath? (rest.dropWhile fun c => !endsAuthority c)
        else none

example : (ofText? "http://user:pw@host:80/metrics?a#b").map Target.path =
    some "/metrics".toList := by decide

example : (ofText? "host:80").map Target.path = some [] ∧
    ofText? "host:80/x" = none ∧
    (ofText? "http://host?x").map Target.path = some ['/'] := by decide

example : (ofText? "a~1+b://host/x").map Target.path = some "/x".toList ∧
    ofText? "a_b://host/x" = none := by decide

end Target
end Http
end NameService
