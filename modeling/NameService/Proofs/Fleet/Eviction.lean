import NameService.Proofs.Fleet.Calls

/-!
# Evictions

A member's last heartbeat is the time at which it was last heard of, by its
registration or by a heartbeat that was accepted, whatever calls came since. So
the second half of a sweep removes, of the members that the first half found,
exactly those that stayed silent in between, and these are refused until they
register again.
-/

namespace NameService
namespace Fleet

variable {fleet : Fleet} {id : NodeId} {now timeout : Nat}

/-! ## Contacts -/

/-- Whom a fleet hears of in a call, and when: who registers, and whose
heartbeat is accepted. -/
def contact? (fleet : Fleet) : Call → Option (NodeId × Nat)
  | .register id now => some (id, now)
  | .heartbeat id now =>
      match (fleet.heartbeat id now).2 with
      | .ok () => some (id, now)
      | .error _ => none
  | .allocate _ _ => none
  | .scan _ _ => none
  | .remove _ _ _ => none

/-- Whom a fleet hears of in a sequence of calls, and when. -/
def contacts (fleet : Fleet) : List Call → List (NodeId × Nat)
  | [] => []
  | call :: calls =>
      (fleet.contact? call).toList ++ (fleet.after call).contacts calls

/-- When an identity was heard of last. -/
def lastContact (heard : List (NodeId × Nat)) (id : NodeId) : Option Nat :=
  heard.reverse.lookup id

theorem contacts_append (fleet : Fleet) (front back : List Call) :
    fleet.contacts (front ++ back) =
      fleet.contacts front ++ (fleet.run front).contacts back := by
  induction front generalizing fleet with
  | nil => rfl
  | cons call front hypothesis =>
      rw [List.cons_append, contacts, contacts, hypothesis, List.append_assoc,
        run_cons]

theorem lastContact_append (front back : List (NodeId × Nat)) (id : NodeId) :
    lastContact (front ++ back) id =
      (lastContact back id).or (lastContact front id) := by
  rw [lastContact, List.reverse_append, List.lookup_append]
  rfl

theorem lastContact_append_singleton
    (heard : List (NodeId × Nat))
    (id other : NodeId)
    (now : Nat) :
    lastContact (heard ++ [(id, now)]) other =
      if other = id then some now else lastContact heard other := by
  rw [lastContact_append, lastContact, List.reverse_singleton]
  by_cases same : other = id
  · subst same
    rw [List.lookup_cons_self, if_pos rfl, Option.some_or]
  · have absent : [(id, now)].lookup other = none := by simpa using same
    rw [absent, if_neg same, Option.none_or]

theorem mem_of_lastContact
    {heard : List (NodeId × Nat)}
    {time : Nat}
    (isLast : lastContact heard id = some time) :
    (id, time) ∈ heard := by
  obtain ⟨front, back, split, -⟩ := List.lookup_eq_some_iff.mp isLast
  rw [← List.mem_reverse, split]
  simp

theorem exists_lastContact
    {heard : List (NodeId × Nat)}
    {time : Nat}
    (present : (id, time) ∈ heard) :
    ∃ last, lastContact heard id = some last := by
  refine Option.isSome_iff_exists.mp (List.lookup_isSome_iff.mpr ?_)
  exact ⟨(id, time), List.mem_reverse.mpr present, by simp⟩

/-- The last heartbeat of every member is when it was heard of last. -/
def Noted (fleet : Fleet) (heard : List (NodeId × Nat)) : Prop :=
  ∀ id member, fleet.get? id = some member →
    lastContact heard id = some member.lastHeartbeat

theorem noted_empty : Noted empty [] := by
  intro id member found
  cases found

/-- Every call notes whom it hears of, and nothing else. -/
theorem Noted.after
    {heard : List (NodeId × Nat)}
    (noted : fleet.Noted heard)
    (call : Call) :
    (fleet.after call).Noted (heard ++ (fleet.contact? call).toList) := by
  intro other member found
  cases call with
  | register id now =>
      rw [contact?, Option.toList_some, lastContact_append_singleton]
      by_cases same : other = id
      · subst same
        rw [Fleet.after, get?_register_self] at found
        obtain rfl := Option.some.inj found
        rw [if_pos rfl]
      · rw [Fleet.after, get?_register_of_ne fleet same] at found
        rw [if_neg same, noted other member found]
  | heartbeat id now =>
      rw [Fleet.after, get?_heartbeat] at found
      obtain ⟨old, wasFound, rfl⟩ := Option.map_eq_some_iff.mp found
      have isOther := (mem_of_get? wasFound).2
      cases known : fleet.get? id with
      | some sender =>
          rw [contact?, heartbeat_of_get? known, Option.toList_some,
            lastContact_append_singleton, isOther]
          by_cases same : other = id
          · rw [if_pos same, if_pos same]
          · rw [if_neg same, if_neg same, noted other old wasFound]
      | none =>
          have different : old.id ≠ id := by
            rintro same
            rw [← same, isOther, wasFound] at known
            cases known
          rw [contact?, heartbeat_of_missing known, Option.toList_none,
            List.append_nil, if_neg different, noted other old wasFound]
  | allocate size count =>
      obtain ⟨change, keeps, changed⟩ := get?_allocate fleet size count other
      rw [changed] at found
      obtain ⟨old, wasFound, rfl⟩ := Option.map_eq_some_iff.mp found
      rw [contact?, Option.toList_none, List.append_nil, keeps,
        noted other old wasFound]
  | scan now timeout =>
      rw [contact?, Option.toList_none, List.append_nil]
      exact noted other member found
  | remove now timeout ids =>
      rw [Fleet.after, (removeStale_drops fleet now timeout ids).get?] at found
      rw [contact?, Option.toList_none, List.append_nil]
      split at found
      · cases found
      · exact noted other member found

theorem Noted.run
    {heard : List (NodeId × Nat)}
    (noted : fleet.Noted heard)
    (calls : List Call) :
    (fleet.run calls).Noted (heard ++ fleet.contacts calls) := by
  induction calls generalizing fleet heard with
  | nil => rwa [contacts, List.append_nil]
  | cons call calls hypothesis =>
      rw [run_cons, contacts, ← List.append_assoc]
      exact hypothesis (noted.after call)

/-! ## Times -/

/-- When a call is made, if it goes by the time of that moment. The second half
of a sweep goes by the time of the first. -/
def Call.time? : Call → Option Nat
  | .register _ now => some now
  | .heartbeat _ now => some now
  | .scan now _ => some now
  | .allocate _ _ => none
  | .remove _ _ _ => none

/-- Times do not go back. -/
def InTime (calls : List Call) : Prop :=
  (calls.filterMap Call.time?).Pairwise fun earlier later => earlier ≤ later

theorem time?_of_contact?
    {call : Call}
    {contact : NodeId × Nat}
    (isContact : fleet.contact? call = some contact) :
    call.time? = some contact.2 := by
  cases call with
  | register id now => cases isContact; rfl
  | heartbeat id now =>
      rw [contact?] at isContact
      split at isContact
      · cases isContact; rfl
      · cases isContact
  | allocate size count => cases isContact
  | scan now timeout => cases isContact
  | remove now timeout ids => cases isContact

/-- Contacts are made at the times of calls. -/
theorem mem_times_of_mem_contacts
    {calls : List Call}
    {contact : NodeId × Nat}
    (present : contact ∈ fleet.contacts calls) :
    contact.2 ∈ calls.filterMap Call.time? := by
  induction calls generalizing fleet with
  | nil => cases present
  | cons call calls hypothesis =>
      rw [List.mem_filterMap]
      rcases List.mem_append.mp present with first | later
      · exact ⟨call, List.mem_cons_self,
          time?_of_contact? (Option.mem_toList.mp first)⟩
      · obtain ⟨made, isLater, atTime⟩ :=
          List.mem_filterMap.mp (hypothesis later)
        exact ⟨made, .tail _ isLater, atTime⟩

/-- Behind the first half of a sweep nobody is heard of before its time. -/
theorem InTime.le_of_mem_contacts
    {before between : List Call}
    (inTime : InTime (before ++ .scan now timeout :: between))
    {contact : NodeId × Nat}
    (present : contact ∈ fleet.contacts between) :
    now ≤ contact.2 := by
  rw [InTime, List.filterMap_append, List.pairwise_append] at inTime
  exact (List.pairwise_cons.mp inTime.2.1).1 _
    (mem_times_of_mem_contacts present)

/-! ## Sweeps -/

/-- A member that was heard of last more than a timeout ago. -/
def Silent
    (fleet : Fleet)
    (heard : List (NodeId × Nat))
    (now timeout : Nat)
    (id : NodeId) : Prop :=
  fleet.contains id = true ∧ ∃ time, lastContact heard id = some time ∧
    time + timeout < now

/-- Where last heartbeats are noted, who is silent is told by them. -/
theorem Noted.silent_iff
    {heard : List (NodeId × Nat)}
    (noted : fleet.Noted heard)
    (now timeout : Nat)
    (id : NodeId) :
    fleet.Silent heard now timeout id ↔
      ∃ member, fleet.get? id = some member ∧
      member.isStale now timeout = true := by
  rw [Silent, contains_iff]
  constructor
  · rintro ⟨⟨member, present⟩, time, isLast, longAgo⟩
    rw [noted id member present] at isLast
    obtain rfl := Option.some.inj isLast
    have silent : timeout < now - member.lastHeartbeat := by omega
    exact ⟨member, present, by simpa [Member.isStale] using silent⟩
  · rintro ⟨member, present, silent⟩
    have longAgo : timeout < now - member.lastHeartbeat := by
      simpa [Member.isStale] using silent
    exact ⟨⟨member, present⟩, _, noted id member present, by omega⟩

/-- What the second half of a sweep makes of a fleet that has heard of its
members at given times, and of some since the first half. -/
structure Sweeps
    (fleet : Fleet)
    (heard since : List (NodeId × Nat))
    (now timeout : Nat)
    (scanned : List NodeId) (swept : Fleet) (removed : List NodeId) : Prop where
  /-- Of the identities that the first half found, those of silent members are
  removed. -/
  removed_iff : ∀ id, id ∈ removed ↔
    id ∈ scanned ∧ fleet.Silent heard now timeout id
  once : removed.Nodup
  /-- The others are members as they were. -/
  survivors : swept.members = fleet.members.filter fun member =>
    member.id ∉ removed
  /-- Whoever was heard of since is within the timeout, and stays. -/
  spared : ∀ contact ∈ since, now ≤ contact.2 + timeout ∧ contact.1 ∉ removed
  /-- Who was removed is no member and is refused, whatever else is called
  for, -/
  refused : ∀ id ∈ removed, ∀ calls, (∀ time, .register id time ∉ calls) →
    (swept.run calls).contains id = false ∧
      ∀ time, (swept.run calls).heartbeat id time =
        (swept.run calls, .error (.notRegistered id.text))
  /-- until it registers again. -/
  readmitted : ∀ id ∈ removed, ∀ calls time again,
    (((swept.run calls).register id time).heartbeat id again).2 = .ok ()

/-- A sweep into which any calls come finds exactly the silent members, and
removes exactly those of them that were silent up to its second half. Nothing
else changes, and who was removed is refused until it registers again. -/
theorem run_sweeps
    {before between : List Call}
    (inTime : InTime (before ++ .scan now timeout :: between)) :
    let scanned := (empty.run before).staleIds now timeout
    let calls := before ++ .scan now timeout :: between
    let sweep := (empty.run calls).removeStale now timeout scanned
    (∀ id, id ∈ scanned ↔
      (empty.run before).Silent (empty.contacts before) now timeout id) ∧
      (empty.run calls).Sweeps (empty.contacts calls)
        ((empty.run before).contacts between) now timeout scanned sweep.1
        sweep.2 := by
  intro scanned calls sweep
  have notedBefore : (empty.run before).Noted (empty.contacts before) :=
    noted_empty.run before
  have noted : (empty.run calls).Noted (empty.contacts calls) :=
    noted_empty.run calls
  have drops : (empty.run calls).Drops now timeout scanned sweep.1 sweep.2 :=
    removeStale_drops _ now timeout scanned
  have removedIff (id : NodeId) : id ∈ sweep.2 ↔
      id ∈ scanned ∧
      (empty.run calls).Silent (empty.contacts calls) now timeout id := by
    rw [drops.mem_iff, noted.silent_iff]
  refine ⟨fun id => ?_, removedIff, drops.nodup, drops.members, ?_, ?_, ?_⟩
  · rw [(distinct_empty.run before).mem_staleIds_iff, notedBefore.silent_iff]
  · intro contact present
    have recent := inTime.le_of_mem_contacts present
    refine ⟨by omega, fun gone => ?_⟩
    obtain ⟨-, -, time, isLast, longAgo⟩ := (removedIff contact.1).mp gone
    obtain ⟨last, isLastSince⟩ := exists_lastContact present
    have atLast := inTime.le_of_mem_contacts (mem_of_lastContact isLastSince)
    have whole : empty.contacts calls =
        empty.contacts before ++ (empty.run before).contacts between :=
      contacts_append _ _ _
    rw [whole, lastContact_append, isLastSince] at isLast
    obtain rfl := Option.some.inj isLast
    simp only at atLast
    omega
  · intro id gone later otherwise
    have missing : (sweep.1.run later).get? id = none := by
      refine get?_run_of_missing ?_ otherwise
      rw [drops.get?, if_pos gone]
    exact ⟨contains_eq_false_iff.mpr missing, heartbeat_of_missing missing⟩
  · intro id _ later time again
    rw [heartbeat_of_get? (get?_register_self _ id time)]

/-- Four nodes that register early on. -/
def earlyCalls : List Call :=
  [.register ⟨"10.0.0.1", "a"⟩ 0, .register ⟨"10.0.0.2", "b"⟩ 10,
    .register ⟨"10.0.0.3", "c"⟩ 20, .register ⟨"10.0.0.4", "d"⟩ 30]

/-- While a sweep is under way one of them is heard of, and another sweep
removes two others, of which one registers again. -/
def busyCalls : List Call :=
  [.heartbeat ⟨"10.0.0.1", "a"⟩ 200, .scan 200 100, .allocate 7 3,
    .remove 200 100 [⟨"10.0.0.3", "c"⟩, ⟨"10.0.0.4", "d"⟩],
    .heartbeat ⟨"10.0.0.4", "d"⟩ 201, .register ⟨"10.0.0.3", "c"⟩ 202]

/-- The sweep has found all four, and removes the one that stayed a silent
member. -/
theorem run_sweeps_busy :
    let calls := earlyCalls ++ .scan 190 100 :: busyCalls
    let scanned := (empty.run earlyCalls).staleIds 190 100
    let sweep := (empty.run calls).removeStale 190 100 scanned
    InTime calls ∧ scanned.length = 4 ∧ sweep.2 = [⟨"10.0.0.2", "b"⟩] ∧
      (empty.run calls).Sweeps (empty.contacts calls)
        ((empty.run earlyCalls).contacts busyCalls) 190 100 scanned sweep.1
        sweep.2 := by
  have inTime : InTime (earlyCalls ++ .scan 190 100 :: busyCalls) := by
    unfold InTime
    decide +kernel
  exact ⟨inTime, by decide +kernel, by decide +kernel, (run_sweeps inTime).2⟩

end Fleet
end NameService
