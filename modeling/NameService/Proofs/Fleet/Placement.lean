import Mathlib.Data.Prod.Lex
import Mathlib.Data.String.Basic
import NameService.Proofs.Fleet.Members
import NameService.Proofs.Sorting

/-!
# Placements

A placement takes the first members in the order of their load, address and host
name, charges them and leaves everything else as it was, however the members are
listed. It comes to an answer exactly if room for as many members as it was
asked for can be set aside, no matter how few there are.
-/

namespace NameService

namespace Member

/-- What a placement goes by: the load, then the address, then the host name. -/
def rank (member : Member) : Nat ×ₗ String ×ₗ String :=
  toLex (member.storedBytes, toLex (member.id.ip, member.id.hostname))

theorem lighter_iff (left right : Member) :
    left.lighter right = true ↔ left.rank ≤ right.rank := by
  simp only [lighter, NodeId.below, rank, Prod.Lex.le_iff, ofLex_toLex,
    Bool.or_eq_true, Bool.and_eq_true, decide_eq_true_eq, beq_iff_eq]

theorem total_lighter
    (left right : Member)
    (notLighter : left.lighter right = false) :
    right.lighter left = true := by
  rw [lighter_iff]
  apply le_of_not_ge
  rw [← lighter_iff, notLighter]
  exact Bool.false_ne_true

theorem transitive_lighter
    (left middle right : Member)
    (first : left.lighter middle = true)
    (second : middle.lighter right = true) :
    left.lighter right = true := by
  rw [lighter_iff] at *
  exact le_trans first second

/-- A rank tells the identity. -/
theorem id_eq_of_rank_eq {left right : Member} (same : left.rank = right.rank) :
    left.id = right.id := by
  obtain ⟨-, names⟩ := Prod.mk.inj (toLex.injective same)
  obtain ⟨ip, hostname⟩ := Prod.mk.inj (toLex.injective names)
  cases isLeft : left.id
  cases isRight : right.id
  simp only [isLeft, isRight] at ip hostname
  rw [ip, hostname]

theorem storedBytes_le_of_rank_lt
    {left right : Member}
    (lower : left.rank < right.rank) :
    left.storedBytes ≤ right.storedBytes := by
  rcases Prod.Lex.lt_iff.mp lower with below | ⟨same, -⟩
  · exact Nat.le_of_lt below
  · exact Nat.le_of_eq same

end Member

namespace Fleet

variable {fleet : Fleet} {size count : Nat}

theorem Distinct.eq_of_rank_eq
    (distinct : fleet.Distinct)
    {left right : Member}
    (isLeft : left ∈ fleet.members)
    (isRight : right ∈ fleet.members)
    (same : left.rank = right.rank) :
    left = right :=
  distinct.eq_of_id_eq isLeft isRight (Member.id_eq_of_rank_eq same)

/-- Members that are each lighter than the other are the same. -/
theorem Distinct.lighter_antisymm
    (distinct : fleet.Distinct)
    (left : Member)
    (isLeft : left ∈ fleet.members)
    (right : Member)
    (isRight : right ∈ fleet.members)
    (forth : left.lighter right = true)
    (back : right.lighter left = true) :
    left = right := by
  rw [Member.lighter_iff] at forth back
  exact distinct.eq_of_rank_eq isLeft isRight (le_antisymm forth back)

/-! ## The choice -/

/-- The members in the order of a placement are of rising rank. -/
theorem Distinct.ascending_sort (distinct : fleet.Distinct) :
    (Sorting.sort Member.lighter fleet.members).Pairwise fun first second =>
      first.rank < second.rank := by
  have sorted := Sorting.pairwise_sort Member.lighter Member.total_lighter
    Member.transitive_lighter fleet.members
  have permuted := Sorting.sort_perm Member.lighter fleet.members
  have different : (Sorting.sort Member.lighter fleet.members).Nodup :=
    permuted.nodup_iff.mpr (List.Nodup.of_map _ distinct)
  refine (sorted.and different).imp_of_mem fun isFirst isSecond both => ?_
  apply lt_of_le_of_ne ((Member.lighter_iff _ _).mp both.1)
  intro same
  exact both.2 (distinct.eq_of_rank_eq (permuted.mem_iff.mp isFirst)
    (permuted.mem_iff.mp isSecond) same)

theorem choose_subset (fleet : Fleet) (count : Nat) :
    fleet.choose count ⊆ fleet.members := by
  intro member taken
  exact (Sorting.sort_perm Member.lighter fleet.members).mem_iff.mp
    (List.mem_of_mem_take taken)

/-- A member that is not chosen ranks above those that are. -/
theorem Distinct.rank_lt_of_not_chosen
    (distinct : fleet.Distinct)
    {member : Member}
    (present : member ∈ fleet.members)
    (left : member ∉ fleet.choose count)
    {target : Member}
    (chosen : target ∈ fleet.choose count) :
    target.rank < member.rank := by
  have ascending := distinct.ascending_sort
  rw [← List.take_append_drop count
    (Sorting.sort Member.lighter fleet.members)] at ascending
  have among : member ∈ Sorting.sort Member.lighter fleet.members := by
    simpa using present
  rw [← List.take_append_drop count
    (Sorting.sort Member.lighter fleet.members)] at among
  rcases List.mem_append.mp among with taken | behind
  · exact absurd taken left
  · exact (List.pairwise_append.mp ascending).2.2 target chosen member behind

/-! ## Charging -/

/-- What a placement of so many bytes on so many members does: whom it takes, in
order, what it makes of the fleet, and what it answers. -/
structure Places
    (fleet : Fleet)
    (size count : Nat)
    (taken : List Member)
    (after : Fleet)
    (targets : List Member) : Prop where
  among : taken ⊆ fleet.members
  length : taken.length = min count fleet.members.length
  distinct : (taken.map Member.id).Nodup
  ascending : taken.Pairwise fun first second => first.rank < second.rank
  /-- Who is not taken ranks above everyone who is. -/
  lightest : ∀ member ∈ fleet.members, member ∉ taken → ∀ target ∈ taken,
    target.rank < member.rank
  answer : targets = taken.map fun member =>
    { member with storedBytes := min (member.storedBytes + size) Word.max }
  /-- Those who are taken are charged, and nothing else changes. -/
  members : after.members = fleet.members.map fun member =>
    if member ∈ taken then
      { member with storedBytes := min (member.storedBytes + size) Word.max }
    else member

theorem Distinct.allocate_places
    (distinct : fleet.Distinct)
    (size count : Nat) :
    fleet.Places size count (fleet.choose count) (fleet.allocate size count).1
      (fleet.allocate size count).2 := by
  have among := fleet.choose_subset count
  have ascending : (fleet.choose count).Pairwise fun first second =>
    first.rank < second.rank :=
    distinct.ascending_sort.sublist (List.take_sublist _ _)
  refine ⟨among, ?_, ?_, ascending, ?_, rfl, ?_⟩
  · rw [choose, List.length_take, Sorting.length_sort]
  · refine List.pairwise_map.mpr
      (ascending.imp_of_mem fun isFirst isSecond lower same => ?_)
    rw [distinct.eq_of_id_eq (among isFirst) (among isSecond) same] at lower
    exact lt_irrefl _ lower
  · exact fun member present left target =>
      distinct.rank_lt_of_not_chosen present left
  · refine List.map_congr_left fun member present => ?_
    have charged :
        ((fleet.choose count).any fun target => target.id == member.id) = true ↔
        member ∈ fleet.choose count := by
      rw [List.any_eq_true]
      constructor
      · rintro ⟨target, taken, same⟩
        rwa [distinct.eq_of_id_eq (among taken) present
          (by simpa using same)] at taken
      · exact fun taken => ⟨member, taken, by simp⟩
    by_cases taken : member ∈ fleet.choose count
    · rw [if_pos (charged.mpr taken), if_pos taken]
      rfl
    · rw [if_neg (mt charged.mp taken), if_neg taken]

/-- A placement does not see how the members are listed. -/
theorem Distinct.choose_of_perm
    (distinct : fleet.Distinct)
    {other : Fleet}
    (same : other.members.Perm fleet.members)
    (count : Nat) :
    other.choose count = fleet.choose count := by
  rw [choose, choose, Sorting.sort_eq_sort_of_perm Member.total_lighter
    Member.transitive_lighter distinct.lighter_antisymm same.symm]

theorem Places.distinct_after
    {taken targets : List Member}
    {after : Fleet}
    (places : fleet.Places size count taken after targets)
    (distinct : fleet.Distinct) :
    after.Distinct := by
  rw [Distinct, places.members]
  exact distinct.map fun member => by split <;> rfl

theorem place?_of_vast
    (vast : maxPlacement < count)
    (fleet : Fleet)
    (size : Nat) :
    fleet.place? size count = none := by
  rw [place?, if_neg (by simpa [canPlace] using vast)]

theorem place?_of_le
    (within : count ≤ maxPlacement)
    (fleet : Fleet)
    (size : Nat) :
    fleet.place? size count = some (fleet.allocate size count) := by
  rw [place?, if_pos (by simpa [canPlace] using within)]

/-- A placement on so many members that room for them can be set aside takes the
lightest ones, as many as there are up to that number, charges them, and leaves
the rest alone, whatever the order in which the members are listed. One on more
members than that comes to no answer. -/
theorem place?_lightest (distinct : fleet.Distinct) (size count : Nat) :
    (maxPlacement < count → fleet.place? size count = none) ∧
      (count ≤ maxPlacement → ∃ taken after targets,
        fleet.place? size count = some (after, targets) ∧
          fleet.Places size count taken after targets ∧
          ∀ other : Fleet, other.members.Perm fleet.members → ∃ otherAfter,
            other.place? size count = some (otherAfter, targets) ∧
              otherAfter.members.Perm after.members) := by
  constructor
  · exact fun vast => place?_of_vast vast fleet size
  · intro within
    refine ⟨_, _, _, place?_of_le within fleet size,
      distinct.allocate_places size count, ?_⟩
    intro other same
    have sameChoice := distinct.choose_of_perm same count
    refine ⟨(other.allocate size count).1, ?_, ?_⟩
    · simp only [place?_of_le within, allocate, sameChoice]
    · simp only [allocate, sameChoice]
      exact same.map _

/-- Three members, two of them of one load and one of them nearly full. -/
def crowded : Fleet :=
  ⟨[⟨⟨"10.0.0.2", "a"⟩, 7, 5⟩, ⟨⟨"10.0.0.1", "a"⟩, 3, Word.max - 1⟩,
    ⟨⟨"10.0.0.1", "b"⟩, 4, 5⟩]⟩

theorem distinct_crowded : crowded.Distinct := by
  unfold Distinct
  decide +kernel

/-- Among members of one load the address decides, and loads stop at the largest
word. -/
theorem place?_lightest_crowded :
    crowded.Distinct ∧ 9 ≤ maxPlacement ∧
      (crowded.place? 10 9).map Prod.snd =
        some [⟨⟨"10.0.0.1", "b"⟩, 4, 15⟩, ⟨⟨"10.0.0.2", "a"⟩, 7, 15⟩,
          ⟨⟨"10.0.0.1", "a"⟩, 3, Word.max⟩] ∧
      ∃ taken after targets, crowded.place? 10 9 = some (after, targets) ∧
        crowded.Places 10 9 taken after targets := by
  have within : 9 ≤ maxPlacement := by decide
  obtain ⟨taken, after, targets, answered, places, -⟩ :=
    (place?_lightest distinct_crowded 10 9).2 within
  exact ⟨distinct_crowded, within, by decide +kernel, taken, after, targets,
    answered, places⟩

/-- One that is asked for the largest number of members comes to no answer,
though there is a member to take. -/
theorem place?_breaks_off :
    (empty.register ⟨"10.0.0.1", "dn1"⟩ 5).Distinct ∧
      ¬ ∃ taken after targets,
        (empty.register ⟨"10.0.0.1", "dn1"⟩ 5).place? 10 Word.max =
          some (after, targets) ∧
          (empty.register ⟨"10.0.0.1", "dn1"⟩ 5).Places 10 Word.max taken after
            targets := by
  refine ⟨distinct_empty.register _ _, ?_⟩
  rintro ⟨taken, after, targets, answered, -⟩
  rw [place?_of_vast (by decide)] at answered
  cases answered

end Fleet
end NameService
