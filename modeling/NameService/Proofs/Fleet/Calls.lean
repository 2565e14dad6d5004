import NameService.Proofs.Fleet.Placement

/-!
# Calls on a fleet

What a fleet becomes as it is called. A sweep is two calls, and others may come
in between. Whatever the calls, each identity stays a member at most once, and
who is no member stays none until it registers.
-/

namespace NameService
namespace Fleet

/-- What is asked of a fleet. -/
inductive Call
  | register (id : NodeId) (now : Nat)
  | heartbeat (id : NodeId) (now : Nat)
  | allocate (size count : Nat)
  /-- The first half of a sweep: look for silent members. -/
  | scan (now timeout : Nat)
  /-- The second half of a sweep: remove those of the identities found before
  that are still silent. Any identities may have been found, so any number of
  sweeps may be under way, and one of them may take its identities in
  portions. -/
  | remove (now timeout : Nat) (ids : List NodeId)

/-- What a fleet is behind a call. -/
def after (fleet : Fleet) : Call → Fleet
  | .register id now => fleet.register id now
  | .heartbeat id now => (fleet.heartbeat id now).1
  | .allocate size count => ((fleet.place? size count).map Prod.fst).getD fleet
  | .scan _ _ => fleet
  | .remove now timeout ids => (fleet.removeStale now timeout ids).1

/-- What a fleet is behind a sequence of calls. -/
def run (fleet : Fleet) (calls : List Call) : Fleet := calls.foldl after fleet

@[simp] theorem run_cons (fleet : Fleet) (call : Call) (calls : List Call) :
    fleet.run (call :: calls) = (fleet.after call).run calls := rfl

/-- A sweep into which no call comes is its two halves. -/
theorem run_sweep (fleet : Fleet) (now timeout : Nat) :
    fleet.run
      [.scan now timeout, .remove now timeout (fleet.staleIds now timeout)] =
      (fleet.evictStale now timeout).1 := rfl

variable {fleet : Fleet} {id : NodeId} {size count : Nat}

/-- What a placement makes of a fleet, if it does anything. -/
theorem after_allocate_cases (fleet : Fleet) (size count : Nat) :
    fleet.after (.allocate size count) = fleet ∧
      fleet.place? size count = none ∨
      fleet.after (.allocate size count) = (fleet.allocate size count).1 ∧
        fleet.place? size count = some (fleet.allocate size count) := by
  rcases Nat.lt_or_ge maxPlacement count with vast | within
  · have nothing := place?_of_vast vast fleet size
    exact .inl ⟨by simp [after, nothing], nothing⟩
  · have answered := place?_of_le within fleet size
    exact .inr ⟨by simp [after, answered], answered⟩

/-- A placement makes and removes no member, and notes no heartbeat. -/
theorem get?_allocate (fleet : Fleet) (size count : Nat) (id : NodeId) :
    ∃ change : Member → Member,
      (∀ member, (change member).lastHeartbeat = member.lastHeartbeat) ∧
        (fleet.after (.allocate size count)).get? id =
          (fleet.get? id).map change := by
  rcases after_allocate_cases fleet size count with ⟨same, -⟩ | ⟨allocated, -⟩
  · exact ⟨fun member => member, fun _ => rfl, by rw [same, Option.map_id']⟩
  · refine ⟨_, fun member => ?_, by
      rw [allocated]
      exact get?_map (fun member => by split <;> rfl) fleet.members id⟩
    split <;> rfl

theorem Distinct.after (distinct : fleet.Distinct) (call : Call) :
    (fleet.after call).Distinct := by
  cases call with
  | register id now => exact distinct.register id now
  | heartbeat id now => exact distinct.heartbeat id now
  | allocate size count =>
      rcases after_allocate_cases fleet size count with
        ⟨same, -⟩ | ⟨allocated, -⟩
      · rwa [same]
      · rw [allocated]
        exact (distinct.allocate_places size count).distinct_after distinct
  | scan now timeout => exact distinct
  | remove now timeout ids =>
      exact (removeStale_drops fleet now timeout ids).distinct distinct

theorem Distinct.run (distinct : fleet.Distinct) (calls : List Call) :
    (fleet.run calls).Distinct := by
  induction calls generalizing fleet with
  | nil => exact distinct
  | cons call calls hypothesis => exact hypothesis (distinct.after call)

/-! ## Who is no member -/

/-- Only a registration makes a member. -/
theorem get?_after_of_missing
    (missing : fleet.get? id = none)
    {call : Call}
    (otherwise : ∀ now, call ≠ .register id now) :
    (fleet.after call).get? id = none := by
  cases call with
  | register other now =>
      have different : id ≠ other := fun same => otherwise now (same ▸ rfl)
      rw [after, get?_register_of_ne fleet different, missing]
  | heartbeat other now => rw [after, get?_heartbeat, missing, Option.map_none]
  | allocate size count =>
      obtain ⟨change, -, changed⟩ := get?_allocate fleet size count id
      rw [changed, missing, Option.map_none]
  | scan now timeout => exact missing
  | remove now timeout ids =>
      rw [after, (removeStale_drops fleet now timeout ids).get?, missing,
        ite_self]

theorem get?_run_of_missing
    (missing : fleet.get? id = none)
    {calls : List Call}
    (otherwise : ∀ now, .register id now ∉ calls) :
    (fleet.run calls).get? id = none := by
  induction calls generalizing fleet with
  | nil => exact missing
  | cons call calls hypothesis =>
      apply hypothesis (get?_after_of_missing missing ?_)
      · exact fun now again => otherwise now (.tail _ again)
      · exact fun now same => otherwise now (same ▸ List.mem_cons_self)

end Fleet
end NameService
