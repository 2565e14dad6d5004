import NameService.Text.Decimal
import NameService.Text.Quoted

/-!
# Network addresses

An IP address with a port, as text. Decimal groups of an IPv4 address have no
leading zeros. An IPv6 address stands in brackets; it may leave out one run of
zero groups and may end in an IPv4 address. It is printed in lower case with its
longest run of zero groups left out.
-/

namespace NameService

/-- An IP address. -/
inductive IpAddress
  /-- The four bytes of an IPv4 address. -/
  | v4 (bytes : List Nat)
  /-- The eight groups of an IPv6 address. -/
  | v6 (groups : List Nat)
  deriving DecidableEq, Repr

/-- An IP address with a port. -/
structure SocketAddress where
  ip : IpAddress
  port : Nat
  /-- The zone of an IPv6 address, zero if there is none. -/
  scope : Nat
  deriving DecidableEq, Repr

namespace Address

/-- A reader of the head of a text. -/
abbrev Scanner (α : Type) := List Char → Option (α × List Char)

/-- The value of a digit in a base of at most sixteen. -/
def digit? (base : Nat) (c : Char) : Option Nat :=
  let value? :=
    if '0' ≤ c ∧ c ≤ '9' then some (c.toNat - '0'.toNat)
    else if 'a' ≤ c ∧ c ≤ 'f' then some (c.toNat - 'a'.toNat + 10)
    else if 'A' ≤ c ∧ c ≤ 'F' then some (c.toNat - 'A'.toNat + 10)
    else none
  value?.filter fun value => value < base

/-- The digits at the head of a text. -/
def takeDigits (base : Nat) : List Char → List Nat × List Char
  | [] => ([], [])
  | c :: rest =>
      match digit? base c with
      | none => ([], c :: rest)
      | some digit =>
          let (digits, after) := takeDigits base rest
          (digit :: digits, after)

/-- Read a number of at most so many digits, if they are limited, and at most a
value. -/
def number
    (base : Nat)
    (digitLimit : Option Nat)
    (leadingZeros : Bool)
    (limit : Nat) :
    Scanner Nat := fun text =>
  let (digits, rest) := takeDigits base text
  let value := digits.foldl (fun value digit => value * base + digit) 0
  if digits.isEmpty then none
  else
    if (digitLimit.map fun most => decide (most < digits.length)).getD
      false then none
  else if !leadingZeros && digits.head? = some 0 && 1 < digits.length then none
  else if limit < value then none
  else some (value, rest)

/-- Read one character. -/
def char (c : Char) : Scanner Unit
  | d :: rest => if c = d then some ((), rest) else none
  | [] => none

/-- Read a separator, unless the item is the first of its row, and an item. -/
def separated (separator : Char) (position : Nat) (item : Scanner α) :
    Scanner α := fun text =>
  if position = 0 then item text
  else do
    let (_, text) ← char separator text
    item text

/-- Read a row of so many items. -/
def row (separator : Char) (item : Scanner α) : Nat → Nat → Scanner (List α)
  | _, 0, text => some ([], text)
  | position, count + 1, text => do
      let (first, text) ← separated separator position item text
      let (rest, text) ← row separator item (position + 1) count text
      pure (first :: rest, text)

/-- Read the four bytes of an IPv4 address. -/
def ipv4 : Scanner (List Nat) := row '.' (number 10 (some 3) false 255) 0 4

/-- Read colon-separated groups, so many at most. An IPv4 address may stand in
place of the last two, and ends the row. The answer tells whether it did. -/
def groups : Nat → Nat → List Char → List Nat × Bool × List Char
  | _, 0, text => ([], false, text)
  | position, room + 1, text =>
      let embedded :=
        if room = 0 then none else separated ':' position ipv4 text
      match embedded with
      | some ([a, b, c, d], rest) => ([a * 256 + b, c * 256 + d], true, rest)
      | _ =>
          match separated ':' position (number 16 (some 4) true 65535) text with
          | none => ([], false, text)
          | some (group, rest) =>
              let (tail, isEmbedded, rest) := groups (position + 1) room rest
              (group :: tail, isEmbedded, rest)

/-- Read the eight groups of an IPv6 address. -/
def ipv6 : Scanner (List Nat) := fun text =>
  let (head, embedded, rest) := groups 0 8 text
  if head.length = 8 then some (head, rest)
  else if embedded then none
  else do
    let (_, rest) ← char ':' rest
    let (_, rest) ← char ':' rest
    let (tail, _, rest) := groups 0 (8 - (head.length + 1)) rest
    pure (head ++ List.replicate (8 - head.length - tail.length) 0 ++ tail,
      rest)

/-- Read a colon and a port. -/
def port : Scanner Nat := fun text => do
  let (_, text) ← char ':' text
  number 10 none true 65535 text

/-- Read an IPv4 address with a port. -/
def socketV4 : Scanner SocketAddress := fun text => do
  let (bytes, text) ← ipv4 text
  let (port, text) ← port text
  pure (⟨.v4 bytes, port, 0⟩, text)

/-- Read the zone of an IPv6 address, zero if there is none. -/
def zone (text : List Char) : Nat × List Char :=
  match (char '%' text).bind fun (_, text) =>
    number 10 none true 4294967295 text with
  | some found => found
  | none => (0, text)

/-- Read an IPv6 address in brackets with a port. -/
def socketV6 : Scanner SocketAddress := fun text => do
  let (_, text) ← char '[' text
  let (groups, text) ← ipv6 text
  let (scope, text) := zone text
  let (_, text) ← char ']' text
  let (port, text) ← port text
  pure (⟨.v6 groups, port, scope⟩, text)

/-- The address that a text names, if it names one. -/
def ofText? (text : String) : Option SocketAddress :=
  match (socketV4 text.toList).orElse fun _ => socketV6 text.toList with
  | some (address, []) => some address
  | _ => none

/-- Numerals between separators. -/
def joined (separator : Char) (numerals : List (List Char)) : List Char :=
  [separator].intercalate numerals

/-- The characters of an IPv4 address. -/
def ipv4Chars (bytes : List Nat) : List Char :=
  joined '.' (bytes.map Text.decimal)

/-- The characters of groups of an IPv6 address. -/
def groupChars (groups : List Nat) : List Char :=
  joined ':' (groups.map Text.hexadecimal)

/-- The length of the run of zeros at the head of a list. -/
def zeroRun : List Nat → Nat
  | 0 :: rest => zeroRun rest + 1
  | _ => 0

/-- The start and the length of the first longest run of zeros. -/
def longestZeroRun (groups : List Nat) : Nat × Nat :=
  (List.range groups.length).foldl
    (fun best start =>
      let length := zeroRun (groups.drop start)
      if best.2 < length then (start, length) else best)
    (0, 0)

/-- The characters of an IPv6 address. -/
def ipv6Chars (groups : List Nat) : List Char :=
  match groups with
  | [0, 0, 0, 0, 0, 0xFFFF, high, low] =>
      "::ffff:".toList ++
        ipv4Chars [high / 256, high % 256, low / 256, low % 256]
  | _ =>
      let (start, length) := longestZeroRun groups
      if 1 < length then
        groupChars (groups.take start) ++ "::".toList ++
          groupChars (groups.drop (start + length))
      else groupChars groups

/-- The characters of a zone, none for zero. -/
def zoneChars (scope : Nat) : List Char :=
  if scope = 0 then [] else '%' :: Text.decimal scope

end Address

namespace SocketAddress

/-- An address as text. -/
def text (address : SocketAddress) : String :=
  String.ofList
    (match address.ip with
      | .v4 bytes => Address.ipv4Chars bytes ++ ':' :: Text.decimal address.port
      | .v6 groups =>
          '[' :: Address.ipv6Chars groups ++ Address.zoneChars address.scope ++
            ']' :: ':' :: Text.decimal address.port)

end SocketAddress
end NameService
