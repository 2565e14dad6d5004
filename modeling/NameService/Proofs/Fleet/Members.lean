import Mathlib.Data.List.Nodup
import NameService.Fleet

/-!
# The members of a fleet

What each call makes of the member of an identity. A registration sets one
member, a heartbeat and a placement change members in place, and a sweep drops
those of the given ones that are silent. Every call leaves each identity a
member at most once.
-/

namespace NameService
namespace Fleet

variable {fleet : Fleet} {id other : NodeId} {member : Member}
  {now timeout : Nat}

/-- Each identity is a member at most once. -/
def Distinct (fleet : Fleet) : Prop := (fleet.members.map Member.id).Nodup

theorem distinct_empty : Distinct empty := List.nodup_nil

theorem mem_of_get? (found : fleet.get? id = some member) :
    member ∈ fleet.members ∧ member.id = id :=
  ⟨List.mem_of_find?_eq_some found, by simpa using List.find?_some found⟩

/-- Members of one identity are the same. -/
theorem Distinct.eq_of_id_eq
    (distinct : fleet.Distinct)
    {left right : Member}
    (isLeft : left ∈ fleet.members)
    (isRight : right ∈ fleet.members)
    (same : left.id = right.id) :
    left = right :=
  List.inj_on_of_nodup_map distinct isLeft isRight same

theorem get?_isSome_of_mem (present : member ∈ fleet.members) :
    ∃ found, fleet.get? member.id = some found :=
  Option.isSome_iff_exists.mp (List.find?_isSome.mpr ⟨member, present, by simp⟩)

/-- Every member is the one of its identity. -/
theorem Distinct.get?_of_mem
    (distinct : fleet.Distinct)
    (present : member ∈ fleet.members) :
    fleet.get? member.id = some member := by
  obtain ⟨found, isFound⟩ := get?_isSome_of_mem present
  obtain ⟨among, same⟩ := mem_of_get? isFound
  rw [isFound, distinct.eq_of_id_eq among present same]

theorem contains_eq_false_iff :
    fleet.contains id = false ↔ fleet.get? id = none := by
  simp [contains]

theorem contains_iff :
    fleet.contains id = true ↔ ∃ member, fleet.get? id = some member :=
  Option.isSome_iff_exists

/-! ## Changing members in place -/

/-- The member of an identity after a change that keeps identities. -/
theorem get?_map
    {change : Member → Member}
    (keeps : ∀ member, (change member).id = member.id)
    (members : List Member)
    (id : NodeId) :
    (mk (members.map change)).get? id = ((mk members).get? id).map change := by
  have same : (fun member => member.id == id) ∘ change = fun member : Member =>
    member.id == id :=
    funext fun member => by simp [keeps]
  rw [get?, get?, List.find?_map, same]

/-- The member of an identity among those of chosen identities. -/
theorem get?_filter
    (keeps : NodeId → Bool)
    (members : List Member)
    (id : NodeId) :
    (mk (members.filter fun member => keeps member.id)).get? id =
      if keeps id then (mk members).get? id else none := by
  rw [get?, get?, List.find?_filter]
  split
  · rename_i kept
    congr 1
    funext member
    by_cases same : member.id = id
    · simp [same, kept]
    · simp [same]
  · rename_i dropped
    refine List.find?_eq_none.mpr fun member _ both => ?_
    have same : keeps member.id = true ∧ member.id = id := by simpa using both
    exact dropped (same.2 ▸ same.1)

theorem Distinct.map
    (distinct : fleet.Distinct)
    {change : Member → Member}
    (keeps : ∀ member, (change member).id = member.id) :
    Distinct ⟨fleet.members.map change⟩ := by
  have same : Member.id ∘ change = Member.id := funext keeps
  rw [Distinct, List.map_map, same]
  exact distinct

theorem Distinct.filter (distinct : fleet.Distinct) (keeps : Member → Bool) :
    Distinct ⟨fleet.members.filter keeps⟩ :=
  distinct.sublist (List.filter_sublist.map _)

/-! ## Registrations -/

/-- The other members than that of an identity. -/
def without (fleet : Fleet) (id : NodeId) : Fleet :=
  ⟨fleet.members.filter fun member => member.id != id⟩

theorem get?_without (fleet : Fleet) (id other : NodeId) :
    (fleet.without id).get? other = if other = id then none else
      fleet.get? other := by
  have kept := get?_filter (fun present => present != id) fleet.members other
  rw [without, kept]
  by_cases same : other = id <;> simp [same]

@[simp] theorem get?_register_self (fleet : Fleet) (id : NodeId) (now : Nat) :
    (fleet.register id now).get? id = some ⟨id, now, 0⟩ := by
  simp [get?, register]

theorem get?_register_of_ne
    (fleet : Fleet)
    (different : other ≠ id)
    (now : Nat) :
    (fleet.register id now).get? other = fleet.get? other := by
  have behind := get?_without fleet id other
  rw [if_neg different] at behind
  rw [register, get?, List.find?_cons_of_neg (by simpa using different.symm)]
  exact behind

theorem Distinct.register
    (distinct : fleet.Distinct)
    (id : NodeId)
    (now : Nat) :
    (fleet.register id now).Distinct := by
  refine List.nodup_cons.mpr ⟨?_, distinct.filter _⟩
  simp

/-! ## Heartbeats -/

/-- Others than members are refused, and nothing else becomes of their
heartbeats. -/
theorem heartbeat_of_missing (missing : fleet.get? id = none) (now : Nat) :
    fleet.heartbeat id now = (fleet, .error (.notRegistered id.text)) := by
  rw [heartbeat, contains, missing]
  rfl

/-- The heartbeat of a member is noted. -/
theorem heartbeat_of_get? (found : fleet.get? id = some member) (now : Nat) :
    fleet.heartbeat id now =
      (⟨fleet.members.map fun member =>
        if member.id = id then { member with lastHeartbeat := now } else
          member⟩, .ok ()) := by
  rw [heartbeat, contains, found]
  rfl

theorem get?_heartbeat (fleet : Fleet) (id other : NodeId) (now : Nat) :
    (fleet.heartbeat id now).1.get? other = (fleet.get? other).map fun member =>
      if member.id = id then { member with lastHeartbeat := now } else
        member := by
  cases found : fleet.get? id with
  | some member =>
      rw [heartbeat_of_get? found]
      exact get?_map (fun member => by split <;> rfl) fleet.members other
  | none =>
      rw [heartbeat_of_missing found]
      cases isOther : fleet.get? other with
      | none => rfl
      | some member =>
          have different : member.id ≠ id := by
            rintro rfl
            rw [(mem_of_get? isOther).2, isOther] at found
            cases found
          simp [different]

theorem Distinct.heartbeat
    (distinct : fleet.Distinct)
    (id : NodeId)
    (now : Nat) :
    (fleet.heartbeat id now).1.Distinct := by
  unfold Fleet.heartbeat
  split
  · exact distinct.map fun member => by split <;> rfl
  · exact distinct

/-! ## Sweeps -/

/-- A member that is silent is found by the first half of a sweep. -/
theorem Distinct.mem_staleIds_iff (distinct : fleet.Distinct) :
    id ∈ fleet.staleIds now timeout ↔
      ∃ member, fleet.get? id = some member ∧
      member.isStale now timeout = true := by
  simp only [staleIds, List.mem_map, List.mem_filter]
  constructor
  · rintro ⟨member, ⟨present, silent⟩, rfl⟩
    exact ⟨member, distinct.get?_of_mem present, silent⟩
  · rintro ⟨member, found, silent⟩
    obtain ⟨present, same⟩ := mem_of_get? found
    exact ⟨member, ⟨present, silent⟩, same⟩

/-- What the second half of a sweep does with the given identities: it drops the
members that are silent, and lists them. -/
structure Drops
    (fleet : Fleet)
    (now timeout : Nat)
    (ids : List NodeId)
    (after : Fleet)
    (removed : List NodeId) : Prop where
  mem_iff : ∀ id, id ∈ removed ↔
    id ∈ ids ∧ ∃ member, fleet.get? id = some member ∧
    member.isStale now timeout = true
  nodup : removed.Nodup
  members : after.members = fleet.members.filter fun member =>
    member.id ∉ removed

namespace Drops

variable {ids removed : List NodeId} {after : Fleet}

/-- An identity is passed over unless its member is silent. -/
theorem pass
    (drops : fleet.Drops now timeout ids after removed)
    (heard : ∀ member, fleet.get? id = some member →
      member.isStale now timeout = false) :
    fleet.Drops now timeout (id :: ids) after removed := by
  refine ⟨fun present => ?_, drops.nodup, drops.members⟩
  rw [drops.mem_iff, List.mem_cons]
  constructor
  · rintro ⟨among, silent⟩
    exact ⟨.inr among, silent⟩
  · rintro ⟨rfl | among, member, found, silent⟩
    · rw [heard member found] at silent
      cases silent
    · exact ⟨among, member, found, silent⟩

/-- The member of the first identity is dropped if it is silent. -/
theorem drop
    (drops : (fleet.without id).Drops now timeout ids after removed)
    (found : fleet.get? id = some member)
    (silent : member.isStale now timeout = true) :
    fleet.Drops now timeout (id :: ids) after (id :: removed) := by
  have notAgain : id ∉ removed := by
    rw [drops.mem_iff, get?_without]
    simp
  refine ⟨fun present => ?_, List.nodup_cons.mpr ⟨notAgain, drops.nodup⟩, ?_⟩
  · rw [List.mem_cons, drops.mem_iff, get?_without, List.mem_cons]
    by_cases same : present = id
    · subst same
      simp [found, silent]
    · simp [same]
  · rw [drops.members, without, List.filter_filter]
    refine List.filter_congr fun present _ => ?_
    by_cases same : present.id = id <;> simp [same]

theorem get? (drops : fleet.Drops now timeout ids after removed) (id : NodeId) :
    after.get? id = if id ∈ removed then none else fleet.get? id := by
  have kept :=
    get?_filter (fun present => decide (present ∉ removed)) fleet.members id
  rw [← drops.members] at kept
  rw [kept]
  by_cases dropped : id ∈ removed <;> simp [dropped]

theorem distinct
    (drops : fleet.Drops now timeout ids after removed)
    (distinct : fleet.Distinct) :
    after.Distinct := by
  have kept := distinct.filter fun member => decide (member.id ∉ removed)
  rwa [← drops.members] at kept

end Drops

theorem removeStale_drops
    (fleet : Fleet)
    (now timeout : Nat)
    (ids : List NodeId) :
    fleet.Drops now timeout ids (fleet.removeStale now timeout ids).1
      (fleet.removeStale now timeout ids).2 := by
  induction ids generalizing fleet with
  | nil => exact ⟨by simp [removeStale], List.nodup_nil, by simp [removeStale]⟩
  | cons first rest hypothesis =>
      cases found : fleet.get? first with
      | none =>
          simp only [removeStale, found]
          exact (hypothesis fleet).pass (by simp [found])
      | some member =>
          cases silent : member.isStale now timeout with
          | false =>
              simp only [removeStale, found, silent]
              exact (hypothesis fleet).pass (by simp [found, silent])
          | true =>
              simp only [removeStale, found, silent, if_true]
              exact (hypothesis (fleet.without first)).drop found silent

end Fleet
end NameService
