import NameService.ServiceError
import NameService.Sorting
import NameService.Word

/-!
# The fleet of storage nodes

Which storage nodes are members, when each was last heard of, and how many bytes
were placed on it. Placement takes the least loaded members first. A sweep first
collects the silent members and then removes those that are still silent.
-/

namespace NameService

/-- The identity of a storage node. -/
structure NodeId where
  ip : String
  hostname : String
  deriving DecidableEq, Repr

namespace NodeId

/-- A storage node as messages name it. -/
def text (id : NodeId) : String := id.hostname ++ "@" ++ id.ip

/-- The order of storage nodes by address and then by host name. -/
def below (left right : NodeId) : Bool :=
  decide (left.ip < right.ip) ||
    (left.ip == right.ip && decide (left.hostname ≤ right.hostname))

end NodeId

/-- A member of the fleet. -/
structure Member where
  id : NodeId
  /-- When the member was last heard of, in milliseconds. -/
  lastHeartbeat : Nat
  /-- How many bytes were placed on the member. -/
  storedBytes : Nat
  deriving DecidableEq, Repr

namespace Member

/-- The order of placement: by load, and by identity among equals. -/
def lighter (left right : Member) : Bool :=
  left.storedBytes < right.storedBytes ||
    (left.storedBytes == right.storedBytes && left.id.below right.id)

/-- Whether a member has been silent for longer than a timeout. -/
def isStale (now timeout : Nat) (member : Member) : Bool :=
  timeout < now - member.lastHeartbeat

/-- The same member with more bytes placed on it. -/
def charge (size : Nat) (member : Member) : Member :=
  { member with storedBytes := Word.saturatingAdd member.storedBytes size }

end Member

/-- The members, each identity at most once, in no particular order. -/
structure Fleet where
  members : List Member
  deriving Repr

namespace Fleet

/-- The fleet without members. -/
def empty : Fleet := ⟨[]⟩

/-- The member of an identity. -/
def get? (fleet : Fleet) (id : NodeId) : Option Member :=
  fleet.members.find? fun member => member.id == id

/-- Whether an identity is a member. -/
def contains (fleet : Fleet) (id : NodeId) : Bool := (fleet.get? id).isSome

/-- Make a node a member without load, also if it was one. -/
def register (fleet : Fleet) (id : NodeId) (now : Nat) : Fleet :=
  ⟨⟨id, now, 0⟩ :: fleet.members.filter fun member => member.id != id⟩

/-- Note that a member was heard of. Others have to register first. -/
def heartbeat (fleet : Fleet) (id : NodeId) (now : Nat) :
    Fleet × Except ServiceError Unit :=
  if fleet.contains id then
    (⟨fleet.members.map fun member =>
        if member.id = id then { member with lastHeartbeat := now } else
          member⟩, .ok ())
  else (fleet, .error (.notRegistered id.text))

/-- How many members a placement can be asked for. Room for all of them is set
aside before the choice, 64 bytes each and less than `2 ^ 63` bytes in all. -/
def maxPlacement : Nat := Nat.pow 2 57 - 1

/-- Whether a placement on so many members can be asked for. -/
def canPlace (count : Nat) : Bool := count ≤ maxPlacement

/-- The members of a placement, in order of choice. -/
def choose (fleet : Fleet) (count : Nat) : List Member :=
  (Sorting.sort Member.lighter fleet.members).take count

/-- Place so many bytes on so many members. The answer lists them as charged. -/
def allocate (fleet : Fleet) (size count : Nat) : Fleet × List Member :=
  let chosen := fleet.choose count
  (⟨fleet.members.map fun member =>
      if chosen.any fun target => target.id == member.id then
        member.charge size else member⟩,
    chosen.map (Member.charge size))

/-- Place so many bytes on so many members, if so many can be asked for.
Otherwise the call breaks off before the choice, without an answer. -/
def place? (fleet : Fleet) (size count : Nat) : Option (Fleet × List Member) :=
  if canPlace count then some (fleet.allocate size count) else none

/-- The members that have been silent for longer than a timeout. -/
def staleIds (fleet : Fleet) (now timeout : Nat) : List NodeId :=
  (fleet.members.filter (Member.isStale now timeout)).map Member.id

/-- Remove those of the given members that are silent for longer than a timeout.
The answer lists the ones removed. -/
def removeStale (fleet : Fleet) (now timeout : Nat) :
    List NodeId → Fleet × List NodeId
  | [] => (fleet, [])
  | id :: rest =>
      match fleet.get? id with
      | some member =>
          if member.isStale now timeout then
            let (swept, removed) :=
              removeStale ⟨fleet.members.filter fun member => member.id != id⟩
                now timeout rest
            (swept, id :: removed)
          else removeStale fleet now timeout rest
      | none => removeStale fleet now timeout rest

/-- Remove every member that has been silent for longer than a timeout. -/
def evictStale (fleet : Fleet) (now timeout : Nat) : Fleet × List NodeId :=
  fleet.removeStale now timeout (fleet.staleIds now timeout)

/-- So many sweeps at one time. -/
def sweeps (fleet : Fleet) (now timeout : Nat) : Nat → Fleet
  | 0 => fleet
  | count + 1 => sweeps (fleet.evictStale now timeout).1 now timeout count

/-- The members in the order of their identities. -/
def sorted (fleet : Fleet) : List Member :=
  Sorting.sort (fun left right => left.id.below right.id) fleet.members

end Fleet
end NameService
