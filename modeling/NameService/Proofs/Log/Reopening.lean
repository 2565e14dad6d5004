import NameService.Proofs.Log.Archive
import NameService.Proofs.Log.Course

/-!
# Opening a log again

A log stops anywhere: between two operations, at any step of a write, or between
two removals of a purge. A crash at a step is the schedule of the disk under
which that step and all later ones fail. What is left in the directory is a run
of the history, and the log that is opened on it lists exactly this run.
-/

namespace NameService

namespace Disk

/-- The same disk, which stops at a step. If that is a write, so many of its
bytes get through. -/
def stopping (disk : Disk) (step written : Nat) : Disk :=
  disk.failing fun other =>
    if other < step then disk.failures other
    else some ⟨.other "", if other = step then written else 0⟩

/-- An honest disk is honest until it stops, and then nothing passes for
missing. -/
theorem Honest.stopping
    {disk : Disk}
    (honest : disk.Honest)
    (step written : Nat) :
    (disk.stopping step written).Honest := by
  intro other failure fails
  simp only [Disk.stopping, failing] at fails
  split at fails
  · exact honest other failure fails
  · cases fails
    simp

end Disk

namespace Span

/-- Spans that tile in two parts tile up to a point between them and on from
there. -/
theorem Tile.split
    {start stop : Nat}
    {left right : List Span}
    (tile : Tile start stop (left ++ right)) :
    ∃ middle, Tile start middle left ∧ Tile middle stop right := by
  induction left generalizing start with
  | nil => exact ⟨start, rfl, tile⟩
  | cons span rest hypothesis =>
      obtain ⟨starts, ordered, behind⟩ := tile
      obtain ⟨middle, front, back⟩ := hypothesis behind
      exact ⟨middle, ⟨starts, ordered, front⟩, back⟩

/-- The last of spans that tile ends where they do. -/
theorem Tile.lastCovered
    {start stop : Nat}
    {spans : List Span}
    (tile : Tile start stop spans)
    (nonempty : spans ≠ []) :
    Log.lastCovered spans = stop := by
  induction spans generalizing start with
  | nil => exact absurd rfl nonempty
  | cons span rest hypothesis =>
      obtain ⟨-, -, behind⟩ := tile
      cases rest with
      | nil => exact behind
      | cons next others =>
          exact hypothesis behind (List.cons_ne_nil next others)

/-- Spans that tile do so up to the end of the last one, also if there are
none. -/
theorem Tile.to_lastCovered
    {start stop : Nat}
    {spans : List Span}
    (tile : Tile start stop spans) :
    ∃ first, Tile first (Log.lastCovered spans) spans := by
  by_cases empty : spans = []
  · subst empty
    exact ⟨0, rfl⟩
  · rw [tile.lastCovered empty]
    exact ⟨start, tile⟩

end Span

namespace Log

/-- The records of chapters that lie end to end are consecutive. -/
theorem numbered_flatMap_records
    {start stop : Nat}
    {chapters : List Chapter}
    (tile : Span.Tile start stop (chapters.map Chapter.span)) :
    Record.Numbered (start + 1) (chapters.flatMap Chapter.records) ∧
      start + (chapters.flatMap Chapter.records).length = stop := by
  induction chapters generalizing start with
  | nil => exact ⟨Record.numbered_nil _, tile⟩
  | cons chapter rest hypothesis =>
      obtain ⟨starts, ordered, behind⟩ := tile
      obtain ⟨numbered, reaches⟩ := hypothesis behind
      have complete := chapter.complete
      rw [starts] at complete
      rw [List.flatMap_cons, List.length_append]
      constructor
      · refine Record.numbered_append.mpr ⟨starts ▸ chapter.numbered, ?_⟩
        rw [complete]
        exact numbered
      · omega

/-! ## What is present -/

/-- A segment file that stands in a directory is one of those that it is listed
with. -/
theorem mem_of_hasFile
    {disk : Disk}
    {directory : Location}
    {spans : List Span}
    (listed : Segment.Listed disk directory spans)
    {span : Span}
    (sound : span.Sound)
    (present : disk.hasFile (Segment.location directory span) = true) :
    span ∈ spans := by
  have notDirectory : disk.item? (Segment.location directory span) ≠
      some .directory := by
    intro isDirectory
    simp [Disk.hasFile, isDirectory] at present
  have inside := Disk.isLandmark_eq_false_of_item?_ne notDirectory
  cases held : disk.items.lookup (Segment.location directory span) with
  | none => simp [Disk.hasFile, Disk.item?, inside, held] at present
  | some item =>
      obtain ⟨front, back, isSplit, -⟩ := List.lookup_eq_some_iff.mp held
      have entry : (Segment.location directory span, item) ∈ disk.items :=
        isSplit ▸ List.mem_append_right _ List.mem_cons_self
      have named : span.fileName ∈ Segment.namesIn disk directory :=
        List.mem_filterMap.mpr
          ⟨_, entry, Segment.nameIn?_location directory sound⟩
      obtain ⟨other, isOther, same⟩ := List.mem_map.mp (listed.mem_iff.mp named)
      exact Span.fileName_injective same ▸ isOther

/-- A directory that is listed without segments has no segment file. -/
theorem listed_nil
    {disk : Disk}
    {directory : Location}
    (stands : disk.Stands directory)
    (isListed : Segment.list disk directory = .ok []) :
    Segment.Listed disk directory [] := by
  have present : disk.has directory = true := by
    simp [Disk.has, stands.item?_eq]
  simp only [Segment.list, present, if_true, Disk.names, stands.item?_eq,
    Except.ok.injEq, Span.ofFileNames] at isListed
  rw [← List.length_eq_zero_iff, Sorting.length_sort, List.length_eq_zero_iff,
    Segment.filterMap_names, List.filterMap_eq_nil_iff] at isListed
  have no_names : Segment.namesIn disk directory = [] := by
    rw [List.eq_nil_iff_forall_not_mem]
    intro name present
    obtain ⟨entry, -, named⟩ := List.mem_filterMap.mp present
    have tells : (Span.ofFileName? name).isSome := by
      rw [Segment.eq_of_nameIn? named,
        Segment.nameIn?_append_singleton] at named
      split at named
      · assumption
      · cases named
    simp [isListed name present] at tells
  rw [Segment.Listed, no_names]
  exact .nil

/-- A log is opened with the segments of its directory, and the disk stays as it
is. -/
theorem openAt_of_listed
    {disk : Disk}
    {directory : Location}
    (stands : disk.Stands directory)
    {limit : Nat}
    {spans : List Span}
    (listed : Segment.Listed disk directory spans)
    (ascending : Span.Ascending limit spans)
    (word : limit ≤ Word.max)
    (segmentSize : Nat) :
    openAt disk directory segmentSize =
      (disk, .ok (ofSpans directory segmentSize spans)) := by
  have isListed := listed.list_eq stands.item?_eq ascending word
  simp only [openAt, Disk.makeDirectories_of_stands stands, isListed,
    Except.map]

namespace Course

/-! ## The invariant -/

/-- The segments of a course lie end to end from the first transaction id on,
and the files of those that were not purged are in the directory. -/
structure Files
    (course : Course)
    (directory : Location)
    (gone kept : List Chapter) : Prop where
  tells : course.Tells gone kept
  /-- All chapters lie end to end. -/
  tile : Span.Tile 0 course.log.flushedTxid ((gone ++ kept).map Chapter.span)
  located : course.log.directory = directory
  /-- The segment files are those that the log lists. -/
  filed : Log.Filed course.log course.disk
  stands : course.disk.Stands directory
  honest : course.disk.Honest

variable {course : Course} {directory : Location} {gone kept : List Chapter}

/-- A log that is opened in a directory without segments files none. -/
theorem files_start
    {before disk : Disk}
    (honest : before.Honest)
    {segmentSize : Nat}
    {log : Log}
    (opened : openAt before directory segmentSize = (disk, .ok log))
    (fresh : log.spans = []) :
    (start disk log).Files directory [] [] := by
  obtain ⟨spans, made, isListed, rfl⟩ := openAt_eq_ok opened
  obtain rfl : spans = [] := fresh
  have stands := Disk.stands_of_makeDirectories made
  refine ⟨tells_start directory segmentSize disk, rfl, rfl,
    listed_nil stands isListed, stands, ?_⟩
  apply honest.of_failures
  have failures := before.failures_makeDirectories directory
  rwa [made] at failures

/-- The records accepted carry all transaction ids from the first one on. -/
theorem Files.history (files : course.Files directory gone kept) :
    Record.Numbered 1 course.accepted ∧
      course.accepted.length = course.log.lastTxid := by
  obtain ⟨numbered, reaches⟩ := numbered_flatMap_records files.tile
  have complete := files.tells.shelved.complete
  rw [files.tells.accepted]
  constructor
  · refine Record.numbered_append.mpr ⟨numbered, ?_⟩
    rw [show 1 + ((gone ++ kept).flatMap Chapter.records).length =
      course.log.flushedTxid + 1 by
      omega]
    exact files.tells.shelved.numbered
  · rw [List.length_append]
    omega

/-- Appending a record files nothing. -/
theorem Files.append_record
    (files : course.Files directory gone kept)
    {record : Record}
    (room : (course.accepted ++ [record]).length ≤ Word.max)
    (next : record.txid = Word.next course.log.lastTxid) :
    ({ course with
      log :=
        { course.log with
          active := course.log.active ++ [record], lastTxid := record.txid }
      accepted := course.accepted ++ [record] }).Files directory gone kept := by
  have total := files.history.2
  rw [List.length_append, List.length_singleton] at room
  exact { files with tells := files.tells.append_record (by omega) next }

/-- A writing files the segments that it writes. -/
theorem Files.write
    (files : course.Files directory gone kept)
    (writing : Writing) :
    ∃ added, ({ course with
      disk := (course.log.write course.disk writing).disk
      log := (course.log.write course.disk writing).state }).Files directory
      gone (kept ++ added) := by
  obtain ⟨added, flushes, shelved⟩ :=
    files.tells.shelved.write files.tells.word writing
  have failures : (course.log.write course.disk writing).disk.failures =
      course.disk.failures :=
    write_keeps
      (fun after step kept => (after.failures_perform step).trans kept)
      course.log rfl writing
  refine ⟨added, files.tells.flushes flushes shelved, ?_, ?_, ?_, ?_, ?_⟩
  · rw [← List.append_assoc, List.map_append]
    exact files.tile.append flushes.tile
  · exact flushes.directory.trans files.located
  · exact files.filed.write files.tells.shelved files.tells.word writing
  · exact files.stands.retained (retains_write course.log course.disk writing)
  · exact files.honest.of_failures failures

/-- A purge removes the files of the segments that it drops. -/
theorem Files.purgeThrough
    (files : course.Files directory gone kept)
    (txid : Nat) :
    ∃ gone kept,
      (course.step (.purgeThrough txid)).Files directory gone kept := by
  obtain ⟨more, rest, joined, purged⟩ := files.tells.purgeThrough txid
  have shelved := files.tells.shelved
  have complete := shelved.complete
  have word := files.tells.word
  have retains :=
    retains_purgeSpans course.disk course.log.directory txid course.log.spans
  have failures :
      (purgeSpans course.disk course.log.directory txid
          course.log.spans).1.failures =
      course.disk.failures :=
    purgeSpans_keeps
      (fun after step kept => (after.failures_perform step).trans kept) rfl _
      txid _
  refine ⟨more, rest, purged, ?_, files.located, ?_,
    files.stands.retained retains, files.honest.of_failures failures⟩
  · rw [joined]
    exact files.tile
  · exact files.filed.purgeThrough shelved files.honest (by omega) txid

/-- Every operation that does not move the log forward keeps its files in
order. -/
theorem Files.step
    (files : course.Files directory gone kept)
    {event : Event}
    (still : ∀ txid, event ≠ .advanceTo txid)
    (room : (course.step event).accepted.length ≤ Word.max) :
    ∃ gone kept, (course.step event).Files directory gone kept := by
  cases event with
  | append operation => exact ⟨gone, kept, files.append_record room rfl⟩
  | appendRecord record =>
      simp only [Course.step, appendRecord] at room ⊢
      by_cases next : record.txid = Word.next course.log.lastTxid
      · simp only [if_pos next] at room ⊢
        exact ⟨gone, kept, files.append_record room next⟩
      · simp only [if_neg next]
        exact ⟨gone, kept, files⟩
  | advanceTo txid => exact absurd rfl (still txid)
  | rotate =>
      obtain ⟨added, written⟩ := files.write .rotate
      exact ⟨gone, kept ++ added, written⟩
  | flush =>
      obtain ⟨added, written⟩ := files.write .flush
      exact ⟨gone, kept ++ added, written⟩
  | roll =>
      obtain ⟨added, written⟩ := files.write .roll
      exact ⟨gone, kept ++ added, written⟩
  | forceSync =>
      obtain ⟨added, written⟩ := files.write .forceSync
      exact ⟨gone, kept ++ added, written⟩
  | purgeThrough txid => exact files.purgeThrough txid

/-- Every sequence of operations that does not move the log forward keeps its
files in order. -/
theorem Files.run
    (files : course.Files directory gone kept)
    (events : List Event)
    (still : ∀ txid, Event.advanceTo txid ∉ events)
    (room : (course.run events).accepted.length ≤ Word.max) :
    ∃ gone kept, (course.run events).Files directory gone kept := by
  induction events using List.reverseRecOn with
  | nil => exact ⟨gone, kept, files⟩
  | append_singleton events last hypothesis =>
      rw [run_append_singleton] at room ⊢
      have earlier : (course.run events).accepted.length ≤ Word.max := by
        obtain ⟨more, grown⟩ := (course.run events).accepted_step last
        rw [grown, List.length_append] at room
        omega
      have before : ∀ txid, Event.advanceTo txid ∉ events := by
        intro txid present
        exact still txid (List.mem_append_left _ present)
      obtain ⟨gone, kept, files⟩ := hypothesis before earlier
      apply files.step ?_ room
      rintro txid rfl
      exact still txid (List.mem_append_right _ List.mem_cons_self)

/-! ## What is found again -/

/-- What a log finds that is opened on the disk of a course alone: segments that
hold these records. -/
structure Reopens
    (course : Course)
    (reopened : Log)
    (contents : List (List Record)) : Prop where
  /-- The names of segments in the directory are those of the spans. -/
  listed : Segment.Listed course.disk reopened.directory reopened.spans
  /-- The segments whose files are present are listed, and no others. -/
  present : ∀ span : Span, span.Sound → (span ∈ reopened.spans ↔
    course.disk.hasFile (Segment.location reopened.directory span) = true)
  sound : ∀ span ∈ reopened.spans, span.Sound
  /-- The segments are read as these records, in the order of their spans. -/
  read :
    Segment.collect (reopened.spans.map (reopened.readSegment course.disk)) =
      .ok contents
  /-- Each segment holds exactly the transaction ids of its name. -/
  named : contents.map (List.map Record.txid) =
    reopened.spans.map fun span =>
      List.range' span.first (span.last + 1 - span.first)
  /-- The spans lie end to end, up to the last transaction id of the log. -/
  tile : ∃ first, Span.Tile first reopened.lastTxid reopened.spans
  /-- The last transaction id is the end of the last segment, or 0 if there is
  none. -/
  lastTxid : reopened.lastTxid = lastCovered reopened.spans
  flushedTxid : reopened.flushedTxid = reopened.lastTxid
  buffered : reopened.buffered = []
  /-- What was accepted carries all transaction ids from the first one on. -/
  history : course.accepted.map Record.txid = List.range' 1 course.log.lastTxid
  /-- The segments hold a contiguous run of it: what is in front of them was
  purged, and what is behind them had not left the buffers. -/
  contiguous : ∃ lost,
    course.accepted = lost ++ contents.flatten ++ course.log.buffered ∧
    ∀ record ∈ lost, ∃ span ∈ course.purged, span.covers record.txid = true
  /-- A record that is in no segment, purged or not, is still buffered. -/
  unflushed : ∀ record ∈ course.accepted,
    (∀ span ∈ course.purged ++ reopened.spans,
      span.covers record.txid = false) →
      record ∈ course.log.buffered

/-- A record of a chapter is under its span. -/
theorem exists_covers_of_mem_flatMap
    {chapters : List Chapter}
    {record : Record}
    (present : record ∈ chapters.flatMap Chapter.records) :
    ∃ span ∈ chapters.map Chapter.span, span.covers record.txid = true := by
  obtain ⟨chapter, isChapter, inChapter⟩ := List.mem_flatMap.mp present
  refine ⟨chapter.span, List.mem_map_of_mem isChapter, ?_⟩
  simpa [Span.covers] using covers_of_mem inChapter

/-- The segments of a course lie end to end, up to the last flushed transaction
id. -/
theorem Files.tile_spans (files : course.Files directory gone kept) :
    ∃ first, Span.Tile first course.log.flushedTxid course.log.spans := by
  obtain ⟨first, -, behind⟩ := Span.Tile.split (List.map_append ▸ files.tile)
  exact ⟨first, files.tells.shelved.listed ▸ behind⟩

/-- What was purged, what the segments hold and what is buffered follow each
other in the history. -/
theorem Files.contiguous (files : course.Files directory gone kept) :
    ∃ lost,
      course.accepted =
        lost ++ (kept.map Chapter.records).flatten ++ course.log.buffered ∧
      ∀ record ∈ lost, ∃ span ∈ course.purged,
        span.covers record.txid = true := by
  refine ⟨gone.flatMap Chapter.records, ?_, ?_⟩
  · rw [files.tells.accepted, List.flatMap_append]
    rfl
  · intro record isLost
    rw [files.tells.purged]
    exact exists_covers_of_mem_flatMap isLost

/-- A record that no segment covers, purged or not, is still buffered. -/
theorem Files.unflushed
    (files : course.Files directory gone kept)
    {record : Record}
    (isAccepted : record ∈ course.accepted)
    (uncovered : ∀ span ∈ course.purged ++ course.log.spans,
      span.covers record.txid = false) :
    record ∈ course.log.buffered := by
  rw [files.tells.accepted] at isAccepted
  rcases List.mem_append.mp isAccepted with inChapters | inBuffers
  · obtain ⟨span, present, covers⟩ := exists_covers_of_mem_flatMap inChapters
    rw [List.map_append, ← files.tells.purged,
      ← files.tells.shelved.listed] at present
    rw [uncovered span present] at covers
    cases covers
  · exact inBuffers

/-- The segments that a course left are found again. -/
theorem Files.reopens
    (files : course.Files directory gone kept)
    (segmentSize : Nat) :
    course.Reopens (ofSpans directory segmentSize course.log.spans)
      (kept.map Chapter.records) := by
  obtain rfl := files.located
  have shelved := files.tells.shelved
  have complete := shelved.complete
  have word := files.tells.word
  obtain ⟨first, tile⟩ := files.tile_spans
  obtain ⟨numbered, total⟩ := files.history
  refine ⟨files.filed, ?_, ?_, files.tells.read, ?_, tile.to_lastCovered, rfl,
    rfl, rfl, total ▸ numbered, files.contiguous, ?_⟩
  · intro span sound
    constructor
    · intro isListed
      obtain ⟨chapter, isChapter, rfl⟩ :=
        List.mem_map.mp (shelved.listed ▸ isListed)
      simp [Disk.hasFile, ofSpans, shelved.stored chapter isChapter]
    · exact mem_of_hasFile files.filed sound
  · intro span isListed
    exact Segment.sound_of_ascending shelved.ascending (by omega)
      (shelved.listed ▸ isListed)
  · simp only [ofSpans, shelved.listed, List.map_map]
    exact List.map_congr_left fun chapter _ => chapter.txids
  · intro record isAccepted uncovered
    exact files.unflushed isAccepted uncovered

/-- Once nothing is buffered, the segments end at the last transaction id,
unless everything was purged. -/
theorem Files.ends
    (files : course.Files directory gone kept)
    (flushed : course.log.buffered = []) :
    (∀ record ∈ course.accepted, ∃ span ∈ course.purged,
      span.covers record.txid = true) ∨
      lastCovered course.log.spans = course.log.lastTxid := by
  have complete := files.tells.shelved.complete
  rw [flushed, List.length_nil, Nat.add_zero] at complete
  by_cases empty : course.log.spans = []
  · left
    obtain ⟨lost, accepted, purged⟩ := files.contiguous
    have nothing : kept = [] :=
      List.map_eq_nil_iff.mp (files.tells.shelved.listed ▸ empty)
    rw [flushed, nothing, List.map_nil, List.flatten_nil, List.append_nil,
      List.append_nil] at accepted
    rw [accepted]
    exact purged
  · right
    obtain ⟨first, tile⟩ := files.tile_spans
    rw [tile.lastCovered empty, complete]

/-- Whatever steps of an honest disk failed since the log was opened in a
directory without segments, and so wherever it stopped, a log that is opened on
the disk then finds a contiguous run of the history, which ends at the last
record accepted if everything had just been flushed and was not purged. -/
theorem run_reopens
    {before disk : Disk}
    (honest : before.Honest)
    {directory : Location}
    {segmentSize : Nat}
    {log : Log}
    (opened : openAt before directory segmentSize = (disk, .ok log))
    (fresh : log.spans = [])
    (events : List Event)
    (still : ∀ txid, Event.advanceTo txid ∉ events)
    (words : ((start disk log).run events).accepted.length ≤ Word.max)
    (failures : Nat → Option Disk.Failure)
    (size : Nat) :
    ∃ reopened contents,
      openAt (((start disk log).run events).disk.failing failures) directory
        size =
        (((start disk log).run events).disk.failing failures, .ok reopened) ∧
      ((start disk log).run events).Reopens reopened contents ∧
      ∀ earlier synced, events = earlier ++ [.forceSync] →
        (((start disk log).run earlier).log.forceSync
          ((start disk log).run earlier).disk).answer = .ok synced →
        (∀ record ∈ ((start disk log).run events).accepted,
          ∃ span ∈ ((start disk log).run events).purged,
            span.covers record.txid = true) ∨
        reopened.lastTxid = ((start disk log).run events).log.lastTxid := by
  obtain ⟨gone, kept, files⟩ :=
    (files_start honest opened fresh).run events still words
  have shelved := files.tells.shelved
  have complete := shelved.complete
  have word := files.tells.word
  have listed : Segment.Listed
      (((start disk log).run events).disk.failing failures) directory
      ((start disk log).run events).log.spans := files.located ▸ files.filed
  have stands :
      (((start disk log).run events).disk.failing failures).Stands directory :=
    files.stands
  refine ⟨_, _,
    openAt_of_listed stands listed (shelved.listed ▸ shelved.ascending)
      (by omega) size,
    files.reopens size, ?_⟩
  rintro earlier synced rfl done
  apply files.ends
  rw [run_append_singleton]
  exact buffered_forceSync_of_ok done

/-- A disk that stops in the middle of the write of a fourth segment. -/
def crashingDisk : Disk := Disk.empty.stopping 15 3

/-- What a log on that disk has come to. -/
def crashingCourse (events : List Event) : Course :=
  (start (openAt crashingDisk ["edits"] 0).1 (ofSpans ["edits"] 0 [])).run
    events

/-- Three records, flushed one by one. -/
def flushedEvents : List Event :=
  [.append (.makeDirectory "/a"), .roll, .append (.createFile "/a/b"), .roll,
    .append (.makeDirectory "/d"), .forceSync]

/-- Then a purge, and one more record, in whose flush the disk stops. -/
def crashedEvents : List Event :=
  flushedEvents ++ [.purgeThrough 1, .append (.makeDirectory "/e"), .roll]

/-- A crash in the write of a segment, and before it a flush of everything that
succeeded. -/
theorem run_reopens_crashing :
    (∃ reopened contents,
      openAt (crashingCourse crashedEvents).disk.mended ["edits"] 0 =
        ((crashingCourse crashedEvents).disk.mended, .ok reopened) ∧
      (crashingCourse crashedEvents).Reopens reopened contents) ∧
    ∃ reopened contents,
      (crashingCourse flushedEvents).Reopens reopened contents ∧
      reopened.lastTxid = 3 := by
  have reliable : Disk.empty.Reliable := fun _ => rfl
  have honest : crashingDisk.Honest := reliable.honest.stopping 15 3
  have opened : openAt crashingDisk ["edits"] 0 =
      ((openAt crashingDisk ["edits"] 0).1, .ok (ofSpans ["edits"] 0 [])) :=
    Prod.ext rfl (by rfl)
  constructor
  · obtain ⟨reopened, contents, isOpened, reopens, -⟩ :=
      run_reopens honest opened rfl crashedEvents
        (by simp [crashedEvents, flushedEvents]) (by decide +kernel)
        (fun _ => none) 0
    exact ⟨reopened, contents, isOpened, reopens⟩
  · obtain ⟨reopened, contents, -, reopens, ends⟩ :=
      run_reopens honest opened rfl flushedEvents (by simp [flushedEvents])
        (by decide +kernel) (fun _ => none) 0
    refine ⟨reopened, contents, reopens, ?_⟩
    exact (ends flushedEvents.dropLast (some ⟨3, 3⟩) rfl (by rfl)).resolve_left
      (by decide +kernel)

end Course
end Log
end NameService
