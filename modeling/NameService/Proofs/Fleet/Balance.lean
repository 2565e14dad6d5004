import NameService.Proofs.Fleet.Calls

/-!
# Balanced loads

A placement charges the lightest members, so it lifts none of them above the
others by more than its size. As long as no node registers, loads that were
equal once differ by no more than the largest size that was placed since.
-/

namespace NameService
namespace Fleet

variable {fleet : Fleet}

/-- The size that a call places on members; zero if it charges none. -/
def placed (fleet : Fleet) : Call → Nat
  | .allocate size count =>
      match fleet.place? size count with
      | some (_, _ :: _) => size
      | _ => 0
  | _ => 0

/-- The largest size that a sequence of calls places on members. -/
def largestPlaced (fleet : Fleet) : List Call → Nat
  | [] => 0
  | call :: calls =>
      max (fleet.placed call) ((fleet.after call).largestPlaced calls)

/-- Every load is a word, and none is above another one by more than a bound. -/
structure Balanced (fleet : Fleet) (bound : Nat) : Prop where
  words : ∀ member ∈ fleet.members, member.storedBytes ≤ Word.max
  close : ∀ left ∈ fleet.members, ∀ right ∈ fleet.members,
    left.storedBytes ≤ right.storedBytes + bound

theorem Balanced.mono {bound larger : Nat} (balanced : fleet.Balanced bound)
    (below : bound ≤ larger) :
    fleet.Balanced larger where
  words := balanced.words
  close left isLeft right isRight :=
    Nat.le_trans (balanced.close left isLeft right isRight)
      (Nat.add_le_add_left below _)

/-- Loads that were there before are balanced as they were. -/
theorem Balanced.of_loads
    {bound : Nat}
    (balanced : fleet.Balanced bound)
    {other : Fleet}
    (known : ∀ member ∈ other.members, ∃ old ∈ fleet.members,
      member.storedBytes = old.storedBytes) :
    other.Balanced bound := by
  constructor
  · intro member present
    obtain ⟨old, wasThere, same⟩ := known member present
    rw [same]
    exact balanced.words old wasThere
  · intro left isLeft right isRight
    obtain ⟨oldLeft, leftThere, leftSame⟩ := known left isLeft
    obtain ⟨oldRight, rightThere, rightSame⟩ := known right isRight
    rw [leftSame, rightSame]
    exact balanced.close oldLeft leftThere oldRight rightThere

/-- A placement lifts the lightest members above the others by its size at
most. -/
theorem Balanced.places
    {bound size count : Nat}
    {taken targets : List Member}
    {after : Fleet}
    (balanced : fleet.Balanced bound)
    (places : fleet.Places size count taken after targets) :
    after.Balanced (max bound size) := by
  have lifted : ∀ member ∈ after.members, ∃ old ∈ fleet.members,
      old ∈ taken ∧ member.storedBytes = min (old.storedBytes + size) Word.max ∨
        old ∉ taken ∧ member.storedBytes = old.storedBytes := by
    intro member present
    rw [places.members] at present
    obtain ⟨old, wasThere, rfl⟩ := List.mem_map.mp present
    refine ⟨old, wasThere, ?_⟩
    by_cases isTaken : old ∈ taken
    · exact .inl ⟨isTaken, by rw [if_pos isTaken]⟩
    · exact .inr ⟨isTaken, by rw [if_neg isTaken]⟩
  have lighter : ∀ light ∈ taken, ∀ heavy ∈ fleet.members, heavy ∉ taken →
      light.storedBytes ≤ heavy.storedBytes :=
    fun light isTaken heavy present left =>
    Member.storedBytes_le_of_rank_lt
      (places.lightest heavy present left light isTaken)
  constructor
  · intro member present
    obtain ⟨old, wasThere, ⟨-, load⟩ | ⟨-, load⟩⟩ := lifted member present
    · rw [load]
      exact Nat.min_le_right _ _
    · rw [load]
      exact balanced.words old wasThere
  · intro left isLeft right isRight
    obtain ⟨oldLeft, leftThere, leftCase⟩ := lifted left isLeft
    obtain ⟨oldRight, rightThere, rightCase⟩ := lifted right isRight
    have before := balanced.close oldLeft leftThere oldRight rightThere
    have word := balanced.words oldRight rightThere
    rcases leftCase with ⟨leftTaken, leftLoad⟩ | ⟨leftKept, leftLoad⟩ <;>
      rcases rightCase with ⟨rightTaken, rightLoad⟩ | ⟨rightKept, rightLoad⟩
    · omega
    · have below := lighter oldLeft leftTaken oldRight rightThere rightKept
      omega
    · omega
    · omega

/-- Every call but a registration leaves the loads balanced, up to the size that
it places. -/
theorem Balanced.after
    {bound : Nat}
    (balanced : fleet.Balanced bound)
    (distinct : fleet.Distinct)
    {call : Call}
    (noneNew : ∀ id now, call ≠ .register id now) :
    (fleet.after call).Balanced (max bound (fleet.placed call)) := by
  cases call with
  | register id now => exact absurd rfl (noneNew id now)
  | heartbeat id now =>
      apply (balanced.mono (Nat.le_max_left _ _)).of_loads
      intro member present
      rw [Fleet.after, Fleet.heartbeat] at present
      split at present
      · obtain ⟨old, wasThere, rfl⟩ := List.mem_map.mp present
        exact ⟨old, wasThere, by split <;> rfl⟩
      · exact ⟨member, present, rfl⟩
  | allocate size count =>
      rcases after_allocate_cases fleet size count with
        ⟨same, -⟩ | ⟨allocated, answered⟩
      · rw [same]
        exact balanced.mono (Nat.le_max_left _ _)
      · rw [allocated]
        have places := distinct.allocate_places size count
        cases chosen : fleet.choose count with
        | nil =>
            -- Nobody is charged, so the loads are the old ones.
            apply (balanced.mono (Nat.le_max_left _ _)).of_loads
            intro member present
            rw [places.members, chosen] at present
            exact ⟨member, by simpa using present, rfl⟩
        | cons target rest =>
            have isPlaced : fleet.placed (.allocate size count) = size := by
              rw [placed, answered, Fleet.allocate, chosen]
              rfl
            rw [isPlaced]
            exact balanced.places places
  | scan now timeout => exact balanced.mono (Nat.le_max_left _ _)
  | remove now timeout ids =>
      apply (balanced.mono (Nat.le_max_left _ _)).of_loads
      intro member present
      rw [Fleet.after,
        (removeStale_drops fleet now timeout ids).members] at present
      exact ⟨member, List.mem_of_mem_filter present, rfl⟩

/-- Calls without a registration leave the loads balanced, up to the largest
size that they place. -/
theorem Balanced.run
    {bound : Nat}
    (balanced : fleet.Balanced bound)
    (distinct : fleet.Distinct)
    {calls : List Call}
    (noneNew : ∀ id now, .register id now ∉ calls) :
    (fleet.run calls).Balanced (max bound (fleet.largestPlaced calls)) := by
  induction calls generalizing fleet bound with
  | nil => exact balanced.mono (Nat.le_max_left _ _)
  | cons call calls hypothesis =>
      have next := balanced.after distinct fun id now same =>
        noneNew id now (same ▸ List.mem_cons_self)
      rw [run_cons, largestPlaced, ← Nat.max_assoc]
      exact hypothesis next (distinct.after call) fun id now later =>
        noneNew id now (.tail _ later)

/-- Members of one load stay as close to each other as the largest size that was
placed on any of them since, whatever placements, heartbeats and sweeps follow,
as long as no node registers. -/
theorem run_balanced
    (distinct : fleet.Distinct)
    {load : Nat}
    (word : load ≤ Word.max)
    (equal : ∀ member ∈ fleet.members, member.storedBytes = load)
    {calls : List Call}
    (noneNew : ∀ id now, .register id now ∉ calls) :
    ∀ left ∈ (fleet.run calls).members, ∀ right ∈ (fleet.run calls).members,
      left.storedBytes ≤ right.storedBytes + fleet.largestPlaced calls := by
  have balanced : fleet.Balanced 0 := by
    constructor
    · exact fun member present => equal member present ▸ word
    · intro left isLeft right isRight
      rw [equal left isLeft, equal right isRight, Nat.add_zero]
  have behind := balanced.run distinct noneNew
  rw [Nat.zero_max] at behind
  exact behind.close

/-- Three members that are nearly full. -/
def nearlyFull : Fleet :=
  ⟨[⟨⟨"10.0.0.2", "b"⟩, 0, Word.max - 12⟩,
    ⟨⟨"10.0.0.1", "a"⟩, 90, Word.max - 12⟩,
    ⟨⟨"10.0.0.3", "c"⟩, 90, Word.max - 12⟩]⟩

/-- Placements of several sizes, one of which wraps around and one of which
comes to no answer, while one member is heard of and another one is removed by a
sweep. -/
def unevenCalls : List Call :=
  [.allocate 10 2, .allocate 4 2, .scan 100 20,
    .heartbeat ⟨"10.0.0.1", "a"⟩ 100, .remove 100 20 [⟨"10.0.0.2", "b"⟩],
    .allocate 7 9, .allocate 99 Word.max, .allocate 99 0]

/-- The loads end at the largest word and one below it, though no size was above
ten. -/
theorem run_balanced_uneven :
    nearlyFull.Distinct ∧
      (∀ member ∈ nearlyFull.members, member.storedBytes = Word.max - 12) ∧
      (nearlyFull.run unevenCalls).members.map Member.storedBytes =
        [Word.max, Word.max - 1] ∧
      nearlyFull.largestPlaced unevenCalls = 10 ∧
      ∀ left ∈ (nearlyFull.run unevenCalls).members,
        ∀ right ∈ (nearlyFull.run unevenCalls).members,
          left.storedBytes ≤
            right.storedBytes + nearlyFull.largestPlaced unevenCalls := by
  have distinct : nearlyFull.Distinct := by
    unfold Distinct
    decide +kernel
  have equal : ∀ member ∈ nearlyFull.members,
      member.storedBytes = Word.max - 12 := by
    decide +kernel
  refine ⟨distinct, equal, by decide +kernel, by decide +kernel, ?_⟩
  exact run_balanced distinct (Nat.sub_le _ _) equal (by simp [unevenCalls])

end Fleet
end NameService
