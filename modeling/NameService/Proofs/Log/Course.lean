import Mathlib.Data.List.Induction
import NameService.Proofs.Log.Chapters
import NameService.Proofs.Runs

/-!
# Every record exactly once

A log goes through any sequence of operations, on a disk on which any step may
fail. What its segments and then its buffers hold is what was ever accepted,
less the segments that were purged, each record once and in order. Transaction
ids are missing between segments only where the log was moved forward.
-/

namespace NameService
namespace Log

/-- An operation of the log. -/
inductive Event
  /-- Append a mutation under the next transaction id. -/
  | append (operation : Operation)
  /-- Append a record that carries its transaction id. -/
  | appendRecord (record : Record)
  /-- Move an empty log forward. -/
  | advanceTo (txid : Nat)
  /-- Seal the active buffer. -/
  | rotate
  /-- Write the sealing buffer to a segment. -/
  | flush
  /-- Rotate and flush. -/
  | roll
  /-- Flush everything buffered. -/
  | forceSync
  /-- Delete the segments that end at or below a transaction id. -/
  | purgeThrough (txid : Nat)

/-- An operation that neither moves a log forward nor purges it. -/
def Event.Adds : Event → Prop
  | .advanceTo _ => False
  | .purgeThrough _ => False
  | _ => True

/-- An operation that keeps the transaction ids of a log words that grow: behind
the largest word nothing is appended. -/
def Event.Fits (log : Log) : Event → Prop
  | .append _ => log.lastTxid < Word.max
  | .appendRecord _ => log.lastTxid < Word.max
  | .advanceTo txid => txid ≤ Word.max
  | _ => True

instance (log : Log) : DecidablePred (Event.Fits log)
  | .append _ => inferInstanceAs (Decidable (log.lastTxid < Word.max))
  | .appendRecord _ => inferInstanceAs (Decidable (log.lastTxid < Word.max))
  | .advanceTo txid => inferInstanceAs (Decidable (txid ≤ Word.max))
  | .rotate | .flush | .roll | .forceSync | .purgeThrough _ => .isTrue trivial

/-- What a log has come to, and what happened on the way. -/
structure Course where
  disk : Disk
  log : Log
  /-- The records accepted, in order. -/
  accepted : List Record
  /-- The spans of the segments that were purged. -/
  purged : List Span
  /-- The transaction ids over which the log was moved forward. -/
  jumps : List Span

namespace Course

/-- A log to which nothing has happened. -/
def start (disk : Disk) (log : Log) : Course := ⟨disk, log, [], [], []⟩

/-- What a course is after one more operation. -/
def step (course : Course) : Event → Course
  | .append operation =>
      let (log, record) := course.log.append operation
      { course with log := log, accepted := course.accepted ++ [record] }
  | .appendRecord record =>
      match course.log.appendRecord record with
      | (log, .ok ()) =>
          { course with log := log, accepted := course.accepted ++ [record] }
      | (log, .error _) => { course with log := log }
  | .advanceTo txid =>
      let log := course.log.advanceTo txid
      if course.log.lastTxid < log.lastTxid then
        { course with
          log := log,
          jumps := course.jumps ++ [⟨course.log.lastTxid + 1, log.lastTxid⟩] }
      else { course with log := log }
  | .rotate => { course with log := course.log.rotate.1 }
  | .flush =>
      let outcome := course.log.flush course.disk
      { course with disk := outcome.disk, log := outcome.state }
  | .roll =>
      let outcome := course.log.roll course.disk
      { course with disk := outcome.disk, log := outcome.state }
  | .forceSync =>
      let outcome := course.log.forceSync course.disk
      { course with disk := outcome.disk, log := outcome.state }
  | .purgeThrough txid =>
      let outcome := course.log.purgeThrough course.disk txid
      let count := course.log.spans.length - outcome.state.spans.length
      { course with
        disk := outcome.disk, log := outcome.state
        purged := course.purged ++ course.log.spans.take count }

/-- What a course is after a sequence of operations. -/
def run (course : Course) (events : List Event) : Course :=
  events.foldl step course

theorem run_append_singleton
    (course : Course)
    (events : List Event)
    (last : Event) :
    course.run (events ++ [last]) = (course.run events).step last := by
  simp [run]

/-- Every operation of a sequence fits the log that it finds. -/
def Roomy (course : Course) (events : List Event) : Prop :=
  Along step (fun course event => event.Fits course.log) course events

instance (course : Course) : DecidablePred course.Roomy := fun events =>
  inferInstanceAs
    (Decidable
      (Along step (fun course event => event.Fits course.log) course events))

/-- A sequence of operations is roomy if its front is, and the rest behind
that. -/
theorem roomy_append {course : Course} {front back : List Event} :
    course.Roomy (front ++ back) ↔
      course.Roomy front ∧ (course.run front).Roomy back :=
  along_append

/-- Every operation goes on accepting records behind the others. -/
theorem accepted_step (course : Course) (event : Event) :
    ∃ more, (course.step event).accepted = course.accepted ++ more := by
  have unchanged : ∃ more, course.accepted = course.accepted ++ more :=
    ⟨[], (List.append_nil _).symm⟩
  cases event with
  | append operation => exact ⟨_, rfl⟩
  | appendRecord record =>
      simp only [step]
      split
      · exact ⟨_, rfl⟩
      · exact unchanged
  | advanceTo txid =>
      simp only [step]
      split <;> exact unchanged
  | rotate => exact unchanged
  | flush => exact unchanged
  | roll => exact unchanged
  | forceSync => exact unchanged
  | purgeThrough txid => exact unchanged

/-! ## The invariant -/

/-- The chapters that were ever written, purged ones first, and the buffers tell
what was accepted. -/
structure Tells (course : Course) (gone kept : List Chapter) : Prop where
  /-- The chapters that are gone were purged. -/
  purged : course.purged = gone.map Chapter.span
  /-- The others stand in the segments. -/
  shelved : Shelved course.log course.disk kept
  /-- The transaction ids are words. -/
  word : course.log.lastTxid ≤ Word.max
  /-- All chapters and then the buffers hold what was accepted. -/
  accepted : course.accepted =
    (gone ++ kept).flatMap Chapter.records ++ course.log.buffered
  /-- All chapters stand in order. -/
  ascending :
    Span.Ascending course.log.flushedTxid ((gone ++ kept).map Chapter.span)
  /-- A transaction id that no chapter covers was jumped over. -/
  covered : ∀ txid, 0 < txid → txid ≤ course.log.flushedTxid →
    (∃ span ∈ (gone ++ kept).map Chapter.span, span.covers txid) ∨
      ∃ jump ∈ course.jumps, jump.covers txid

variable {course : Course} {gone kept : List Chapter}

/-- A fresh log tells what was accepted: nothing. -/
theorem tells_start (directory : Location) (segmentSize : Nat) (disk : Disk) :
    (start disk (ofSpans directory segmentSize [])).Tells [] [] :=
  ⟨rfl, shelved_ofSpans_nil directory segmentSize disk, Nat.zero_le _, rfl,
    Span.ascending_nil _,
    fun _ positive bound => absurd bound (Nat.not_le.mpr positive)⟩

/-- Appending a record keeps the account. -/
theorem Tells.append_record
    (tells : course.Tells gone kept)
    {record : Record}
    (room : course.log.lastTxid < Word.max)
    (next : record.txid = Word.next course.log.lastTxid) :
    ({ course with
      log :=
        { course.log with
          active := course.log.active ++ [record], lastTxid := record.txid }
      accepted := course.accepted ++ [record] }).Tells gone kept where
  purged := tells.purged
  shelved := tells.shelved.append_record (next.trans (Word.next_of_lt room))
  word := by
    rw [next, Word.next_of_lt room]
    exact room
  accepted := by
    simp [tells.accepted, buffered]
  ascending := tells.ascending
  covered := tells.covered

/-- An operation that flushes keeps the account. -/
theorem Tells.flushes
    (tells : course.Tells gone kept)
    {after : Log}
    {disk : Disk}
    {added : List Chapter}
    (flushes : Flushes course.log after added)
    (shelved : Shelved after disk (kept ++ added)) :
    ({ course with disk := disk, log := after }).Tells gone
      (kept ++ added) := by
  refine ⟨tells.purged, shelved, flushes.lastTxid ▸ tells.word, ?_, ?_, ?_⟩
  · have accepted := tells.accepted
    rw [flushes.buffered] at accepted
    simpa using accepted
  · have ascending := tells.ascending.append_tile flushes.tile
    rwa [← List.map_append, List.append_assoc] at ascending
  · intro txid positive bound
    by_cases old : txid ≤ course.log.flushedTxid
    · refine (tells.covered txid positive old).imp_left ?_
      rintro ⟨span, present, covers⟩
      refine ⟨span, ?_, covers⟩
      rw [← List.append_assoc, List.map_append]
      exact List.mem_append_left _ present
    · obtain ⟨span, present, covers⟩ :=
        flushes.tile.covers (Nat.lt_of_not_le old) bound
      refine .inl ⟨span, ?_, covers⟩
      rw [← List.append_assoc, List.map_append]
      exact List.mem_append_right _ present

/-- Moving the log forward keeps the account. -/
theorem Tells.advanceTo
    (tells : course.Tells gone kept)
    {txid : Nat}
    (word : txid ≤ Word.max) :
    (course.step (.advanceTo txid)).Tells gone kept := by
  have shelved := tells.shelved.advanceTo txid
  simp only [step]
  rcases advanceTo_cases course.log txid with same | ⟨ahead, empty, moved⟩
  · simp only [same, Nat.lt_irrefl, if_false]
    exact tells
  · rw [moved] at shelved
    have complete := tells.shelved.complete
    rw [empty, List.length_nil, Nat.add_zero] at complete
    simp only [moved, ahead, if_true]
    refine ⟨tells.purged, shelved, word, tells.accepted,
      tells.ascending.sublist (.refl _) (Nat.le_max_left _ _), ?_⟩
    intro other positive bound
    by_cases old : other ≤ course.log.flushedTxid
    · refine (tells.covered other positive old).imp_right ?_
      rintro ⟨jump, present, covers⟩
      exact ⟨jump, List.mem_append_left _ present, covers⟩
    · refine .inr ⟨_, List.mem_append_right _ List.mem_cons_self, ?_⟩
      simp only [Span.covers, Bool.and_eq_true, decide_eq_true_eq]
      simp only at bound
      omega

/-- Purging moves chapters from those that are kept to those that are gone, and
keeps the account. -/
theorem Tells.purgeThrough
    (tells : course.Tells gone kept)
    (txid : Nat) :
    ∃ more rest, more ++ rest = gone ++ kept ∧
      (course.step (.purgeThrough txid)).Tells more rest := by
  obtain ⟨dropped, rest, isSplit, -, state, shelved⟩ :=
    tells.shelved.purgeThrough txid
  have joined : (gone ++ dropped) ++ rest = gone ++ kept := by
    rw [isSplit, List.append_assoc]
  refine ⟨gone ++ dropped, rest, joined, ?_, shelved, ?_, ?_, ?_, ?_⟩
  · simp [step, state, tells.purged, tells.shelved.listed, isSplit]
  · simp only [step, state]
    exact tells.word
  · rw [joined]
    simp only [step, state]
    exact tells.accepted
  · rw [joined]
    simp only [step, state]
    exact tells.ascending
  · rw [joined]
    simp only [step, state]
    exact tells.covered

/-- An operation that neither moves the log forward nor purges it keeps every
segment, and keeps the account. -/
theorem Tells.grow
    (tells : course.Tells gone kept)
    {event : Event}
    (adds : event.Adds)
    (fits : event.Fits course.log) :
    ∃ added, (course.step event).Tells gone (kept ++ added) := by
  have same : course.Tells gone (kept ++ []) := by simpa using tells
  cases event with
  | append operation => exact ⟨[], same.append_record fits rfl⟩
  | appendRecord record =>
      refine ⟨[], ?_⟩
      simp only [Course.step, appendRecord]
      by_cases next : record.txid = Word.next course.log.lastTxid
      · simp only [if_pos next]
        exact same.append_record fits next
      · simp only [if_neg next]
        exact same
  | advanceTo txid => exact adds.elim
  | rotate =>
      have shelved : Shelved course.log.rotate.1 course.disk (kept ++ []) := by
        simpa using tells.shelved.rotate
      exact ⟨[], tells.flushes (flushes_rotate _) shelved⟩
  | flush =>
      obtain ⟨added, flushes, shelved⟩ := tells.shelved.flush tells.word
      exact ⟨added, tells.flushes flushes shelved⟩
  | roll =>
      obtain ⟨added, flushes, shelved⟩ := tells.shelved.roll tells.word
      exact ⟨added, tells.flushes flushes shelved⟩
  | forceSync =>
      obtain ⟨added, flushes, shelved⟩ := tells.shelved.forceSync tells.word
      exact ⟨added, tells.flushes flushes shelved⟩
  | purgeThrough txid => exact adds.elim

/-- Every operation that fits keeps the account. -/
theorem Tells.step
    (tells : course.Tells gone kept)
    {event : Event}
    (fits : event.Fits course.log) :
    ∃ gone kept, (course.step event).Tells gone kept := by
  by_cases adds : event.Adds
  · obtain ⟨added, grown⟩ := tells.grow adds fits
    exact ⟨gone, kept ++ added, grown⟩
  · cases event with
    | advanceTo txid => exact ⟨gone, kept, tells.advanceTo fits⟩
    | purgeThrough txid =>
        obtain ⟨gone, kept, -, purged⟩ := tells.purgeThrough txid
        exact ⟨gone, kept, purged⟩
    | _ => exact absurd trivial adds

/-- Every sequence of operations that fit keeps the account. -/
theorem Tells.run
    (tells : course.Tells gone kept)
    {events : List Event}
    (roomy : course.Roomy events) :
    ∃ gone kept, (course.run events).Tells gone kept :=
  Along.foldl_induction roomy
    (fun course => ∃ gone kept, course.Tells gone kept)
    (fun ⟨_, _, tells⟩ fits => tells.step fits) ⟨gone, kept, tells⟩

/-! ## What is read back -/

/-- The span of a chapter covers its records. -/
theorem covers_of_mem
    {chapter : Chapter}
    {record : Record}
    (present : record ∈ chapter.records) :
    chapter.span.first ≤ record.txid ∧ record.txid ≤ chapter.span.last := by
  have bounds := chapter.numbered.bounds present
  have complete := chapter.complete
  omega

/-- The records of chapters in order carry increasing transaction ids. -/
theorem pairwise_flatMap_records
    {limit : Nat}
    {chapters : List Chapter}
    (ascending : Span.Ascending limit (chapters.map Chapter.span)) :
    (chapters.flatMap Chapter.records).Pairwise fun left right =>
      left.txid < right.txid := by
  refine List.pairwise_flatMap.mpr ⟨fun chapter _ => ?_, ?_⟩
  · refine List.pairwise_map.mp ?_
    rw [chapter.numbered]
    exact List.pairwise_lt_range'
  · refine (List.pairwise_map.mp ascending.apart).imp
      fun apart left inLeft right inRight => ?_
    have := covers_of_mem inLeft
    have := covers_of_mem inRight
    omega

/-- The records accepted carry increasing transaction ids. -/
theorem Tells.increasing (tells : course.Tells gone kept) :
    course.accepted.Pairwise fun left right => left.txid < right.txid := by
  rw [tells.accepted]
  refine List.pairwise_append.mpr
    ⟨pairwise_flatMap_records tells.ascending, ?_, ?_⟩
  · refine List.pairwise_map.mp ?_
    rw [tells.shelved.numbered]
    exact List.pairwise_lt_range'
  · intro left inChapters right inBuffers
    obtain ⟨chapter, present, inChapter⟩ := List.mem_flatMap.mp inChapters
    have limited :=
      tells.ascending.limited chapter.span (List.mem_map_of_mem present)
    have covered := covers_of_mem inChapter
    have bounds := tells.shelved.numbered.bounds inBuffers
    omega

/-- The segments are read as the records of their chapters. -/
theorem Tells.read (tells : course.Tells gone kept) :
    Segment.collect
      (course.log.spans.map (course.log.readSegment course.disk)) =
      .ok (kept.map Chapter.records) := by
  have each : ∀ chapter ∈ kept,
      course.log.readSegment course.disk chapter.span =
        .ok chapter.records := by
    intro chapter present
    have limited :=
      tells.shelved.ascending.limited chapter.span (List.mem_map_of_mem present)
    have complete := tells.shelved.complete
    have word := tells.word
    refine Segment.read_of_item? (tells.shelved.stored chapter present)
      fun record inChapter => ?_
    have := covers_of_mem inChapter
    omega
  rw [tells.shelved.listed, List.map_map,
    ← Segment.collect_map_ok (ε := LogError) (kept.map Chapter.records),
    List.map_map]
  exact congrArg Segment.collect (List.map_congr_left each)

end Course
end Log
end NameService
