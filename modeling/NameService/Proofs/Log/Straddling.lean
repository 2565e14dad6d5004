import NameService.Proofs.Log.Fetching

/-!
# Fetches that straddle operations

A fetch looks at the log four times, and the log does not wait for it. Between
two looks records move from the active buffer to the sealing one and on to a
segment. As long as no segment is purged, a record that one look misses is found
by a later one.
-/

namespace NameService
namespace Log.Course

variable {course : Course} {gone kept : List Chapter}

/-- The log of a course and its disk. -/
def moment (course : Course) : Moment := ⟨course.log, course.disk⟩

theorem run_append (course : Course) (front back : List Event) :
    course.run (front ++ back) = (course.run front).run back :=
  List.foldl_append

/-- Every sequence of operations goes on accepting records behind the others. -/
theorem accepted_run (course : Course) (events : List Event) :
    ∃ more, (course.run events).accepted = course.accepted ++ more := by
  induction events using List.reverseRecOn with
  | nil => exact ⟨[], (List.append_nil _).symm⟩
  | append_singleton events last hypothesis =>
      obtain ⟨more, accepted⟩ := hypothesis
      obtain ⟨latest, grown⟩ := (course.run events).accepted_step last
      exact ⟨more ++ latest,
        by rw [run_append_singleton, grown, accepted, List.append_assoc]⟩

/-- Records accepted once stay accepted. -/
theorem accepted_subset_run (course : Course) (events : List Event) :
    course.accepted ⊆ (course.run events).accepted := by
  obtain ⟨more, grown⟩ := course.accepted_run events
  rw [grown]
  exact List.subset_append_left _ _

/-- Operations that neither move the log forward nor purge it keep every
segment. -/
theorem Tells.growAll
    (tells : course.Tells gone kept)
    {events : List Event}
    (adds : ∀ event ∈ events, event.Adds)
    (roomy : course.Roomy events) :
    ∃ added, (course.run events).Tells gone (kept ++ added) := by
  induction events generalizing course kept with
  | nil =>
      refine ⟨[], ?_⟩
      rw [List.append_nil]
      exact tells
  | cons event rest hypothesis =>
      obtain ⟨first, others⟩ := List.forall_mem_cons.mp adds
      obtain ⟨added, grown⟩ := tells.grow first roomy.1
      obtain ⟨more, grownAgain⟩ := hypothesis grown others roomy.2
      exact ⟨added ++ more, by rwa [← List.append_assoc]⟩

/-- What was buffered is still buffered after operations that purge nothing, or
it has moved to a segment that was added. -/
theorem Tells.buffered_subset
    {events : List Event}
    {added : List Chapter}
    (tells : course.Tells gone kept)
    (grown : (course.run events).Tells gone (kept ++ added)) :
    course.log.buffered ⊆
      added.flatMap Chapter.records ++ (course.run events).log.buffered := by
  obtain ⟨more, accepted⟩ := course.accepted_run events
  rw [grown.accepted, tells.accepted, ← List.append_assoc gone,
    List.flatMap_append, List.append_assoc, List.append_assoc] at accepted
  rw [List.append_cancel_left accepted]
  exact List.subset_append_left _ _

/-- The segments and the buffers of a course hold what was accepted. -/
theorem Tells.shows
    (tells : course.Tells gone kept)
    {known : List Record}
    (within : course.accepted ⊆ known) :
    Fetcher.Shows course.moment kept known := by
  refine ⟨tells.shelved, List.Subset.trans ?_ within⟩
  rw [tells.accepted, List.flatMap_append, List.append_assoc]
  exact List.subset_append_right _ _

end Log.Course

namespace Fetcher.Reading

/-- Operations of the log in the middle of a fetch: behind its first look at the
segments, behind its look into the buffers, and behind its look at the last
flushed id. -/
structure Meanwhile where
  first : List Log.Event
  second : List Log.Event
  third : List Log.Event

/-- All operations in the middle of a fetch. -/
def Meanwhile.events (meanwhile : Meanwhile) : List Log.Event :=
  meanwhile.first ++ meanwhile.second ++ meanwhile.third

/-- What a fetch from a transaction id on gives while the log goes on, and what
the fetcher is then. -/
def fetchDuring (reading : Reading) (meanwhile : Meanwhile) (txid : Nat) :
    Fetcher × Except LogError (List Record) :=
  reading.fetcher.fetchAcross reading.course.moment
    (reading.course.run meanwhile.first).moment
    (reading.course.run (meanwhile.first ++ meanwhile.second)).moment
    (reading.course.run meanwhile.events).moment txid

/-- What happens between a log and a reader that it does not wait for. -/
inductive Move
  /-- An operation of the log. -/
  | log (event : Log.Event)
  /-- A fetch from a transaction id on, with operations in the middle of it. -/
  | fetch (meanwhile : Meanwhile) (txid : Nat)

/-- What a reading is after one more move. -/
def move (reading : Reading) : Move → Reading
  | .log event => { reading with course := reading.course.step event }
  | .fetch meanwhile txid =>
      ⟨reading.course.run meanwhile.events,
        (reading.fetchDuring meanwhile txid).1⟩

/-- What a reading is after a sequence of moves. -/
def moves (reading : Reading) (sequence : List Move) : Reading :=
  sequence.foldl move reading

variable {reading : Reading} {batchSize : Nat}

/-- A move that counts on from no transaction id behind which there is none: no
append is behind the largest word, and no look of a fetch comes upon it. -/
def Move.Fits (reading : Reading) : Move → Prop
  | .log event => event.Fits reading.course.log
  | .fetch meanwhile _ =>
      reading.course.Roomy meanwhile.events ∧
        (reading.course.run meanwhile.events).log.lastTxid < Word.max

instance (reading : Reading) : DecidablePred (Move.Fits reading)
  | .log event => inferInstanceAs (Decidable (event.Fits reading.course.log))
  | .fetch meanwhile _ =>
      inferInstanceAs (Decidable (reading.course.Roomy meanwhile.events ∧
        (reading.course.run meanwhile.events).log.lastTxid < Word.max))

/-- Every move of a sequence fits the reading that it finds. -/
def RoomyMoves (reading : Reading) (sequence : List Move) : Prop :=
  Along move Move.Fits reading sequence

instance (reading : Reading) : DecidablePred reading.RoomyMoves :=
  fun sequence =>
    inferInstanceAs (Decidable (Along move Move.Fits reading sequence))

/-- A fetch in the middle of which the log goes on is served from what is
accepted in the end. -/
theorem Sound.serves
    (sound : reading.Sound batchSize)
    {meanwhile : Meanwhile}
    {gone kept goneThen between goneAgain relisted : List Log.Chapter}
    (tells : reading.course.Tells gone kept)
    (tellsThen : (reading.course.run meanwhile.first).Tells goneThen between)
    (tellsAgain :
      (reading.course.run meanwhile.events).Tells goneAgain relisted)
    (txid : Nat) :
    ∃ after batch, reading.fetchDuring meanwhile txid = (after, .ok batch) ∧
      reading.fetcher.Serves reading.course.moment
        (reading.course.run meanwhile.first).moment
        (reading.course.run meanwhile.events).moment
        (reading.course.run meanwhile.events).accepted txid batch ∧
      (batch = [] → reading.fetcher.Misses kept
        (reading.course.run meanwhile.first).moment
        (reading.course.run (meanwhile.first ++ meanwhile.second)).moment
          relisted txid) ∧
      after.Caches (reading.course.run meanwhile.events).accepted ∧
      after.batchSize = reading.fetcher.batchSize := by
  have room : 0 < reading.fetcher.batchSize := by
    have size := sound.size
    omega
  have early := reading.course.accepted_subset_run meanwhile.events
  have middle : (reading.course.run meanwhile.first).accepted ⊆
      (reading.course.run meanwhile.events).accepted := by
    rw [Meanwhile.events, List.append_assoc, Log.Course.run_append]
    exact Log.Course.accepted_subset_run _ _
  exact serves_fetchAcross (tells.shows early) (tellsThen.shows middle)
    (tellsAgain.shows (List.Subset.refl _)) tellsAgain.words
    (sound.caches.mono early) room txid

/-- Every move that fits keeps a reading sound. -/
theorem Sound.move
    (sound : reading.Sound batchSize)
    {move : Move}
    (fits : move.Fits reading) :
    (reading.move move).Sound batchSize := by
  cases move with
  | log event =>
      exact sound.step (show Event.Fits reading (.log event) from fits)
  | fetch meanwhile txid =>
      obtain ⟨gone, kept, tells⟩ := sound.tells
      have roomy := fits.1
      obtain ⟨goneAgain, relisted, tellsAgain⟩ := tells.run roomy
      rw [Meanwhile.events, List.append_assoc, Log.Course.roomy_append] at roomy
      obtain ⟨goneThen, between, tellsThen⟩ := tells.run roomy.1
      obtain ⟨after, batch, fetched, -, -, caches, sameSize⟩ :=
        sound.serves tells tellsThen tellsAgain txid
      refine ⟨⟨goneAgain, relisted, tellsAgain⟩, ?_, ?_⟩
      · simpa only [Reading.move, fetched] using caches
      · simp only [Reading.move, fetched]
        exact sameSize.trans sound.size

/-- Every sequence of moves that fit keeps a reading sound. -/
theorem Sound.moves
    (sound : reading.Sound batchSize)
    {sequence : List Move}
    (roomy : reading.RoomyMoves sequence) :
    (reading.moves sequence).Sound batchSize :=
  Along.foldl_induction roomy (fun reading => reading.Sound batchSize)
    (fun sound fits => sound.move fits) sound

/-! ## Pieces of the history -/

/-- A batch is a piece of the history from a transaction id on, and what was at
hand when the fetch began does not escape it. -/
structure Piece
    (reading : Reading)
    (meanwhile : Meanwhile)
    (batchSize txid : Nat)
    (batch : List Record) : Prop where
  /-- The ids go up by one, from the one asked for. -/
  numbered : batch.map Record.txid = List.range' txid batch.length
  /-- A batch size of 0 counts as 1. -/
  short : batch.length ≤ max batchSize 1
  /-- The batch holds what was accepted under these ids. -/
  records : batch =
    (reading.course.run meanwhile.events).accepted.filter fun record =>
    decide (txid ≤ record.txid ∧ record.txid < txid + batch.length)
  /-- It is not empty if the first record was in a segment, in a buffer or
  cached. -/
  nonempty : ∀ record, reading.fetcher.AtHand reading.course.moment record →
    record.txid = txid → batch ≠ []

/-- What was buffered when a fetch began does not escape all of its looks: it is
still buffered at the second one, or it counts as flushed from then on. -/
theorem not_misses_of_buffered
    {fetcher : Fetcher}
    {course : Log.Course}
    {first second : List Log.Event}
    {gone kept added more latest : List Log.Chapter}
    (tells : course.Tells gone kept)
    (tellsThen : (course.run first).Tells gone (kept ++ added))
    (tellsCounted :
      (course.run (first ++ second)).Tells gone (kept ++ added ++ more))
    {record : Record}
    (buffered : record ∈ course.log.buffered) :
    ¬ fetcher.Misses kept (course.run first).moment
      (course.run (first ++ second)).moment (kept ++ added ++ more ++ latest)
      record.txid := by
  intro misses
  rcases List.mem_append.mp (tells.buffered_subset tellsThen buffered) with
    moved | stayed
  · obtain ⟨chapter, isAdded, inChapter⟩ := List.mem_flatMap.mp moved
    have covers := Log.Course.covers_of_mem inChapter
    have isCounted : chapter ∈ kept ++ added ++ more := by simp [isAdded]
    have flushed := tellsCounted.shelved.ascending.limited chapter.span
      (List.mem_map_of_mem isCounted)
    have missing := misses.unrelisted (Nat.le_trans covers.2 flushed) chapter
      (List.mem_append_left _ isCounted)
    simp [Span.covers, covers] at missing
  · exact misses.unbuffered ⟨record, stayed, rfl⟩

/-- A fetch from a sound reading is served a piece of the history, as long as no
segment is purged in the middle of it. -/
theorem Sound.piece
    (sound : reading.Sound batchSize)
    {meanwhile : Meanwhile}
    (adds : ∀ event ∈ meanwhile.events, event.Adds)
    (roomy : reading.course.Roomy meanwhile.events)
    (txid : Nat) :
    ∃ batch, (reading.fetchDuring meanwhile txid).2 = .ok batch ∧
      reading.Piece meanwhile batchSize txid batch := by
  obtain ⟨gone, kept, tells⟩ := sound.tells
  -- Each look sees the segments of the looks before it, and more behind them.
  obtain ⟨front, addsThird⟩ := List.forall_mem_append.mp adds
  obtain ⟨addsFirst, addsSecond⟩ := List.forall_mem_append.mp front
  obtain ⟨roomyFront, roomyThird⟩ := Log.Course.roomy_append.mp roomy
  obtain ⟨roomyFirst, roomySecond⟩ := Log.Course.roomy_append.mp roomyFront
  obtain ⟨added, tellsThen⟩ := tells.growAll addsFirst roomyFirst
  obtain ⟨more, tellsCounted⟩ := tellsThen.growAll addsSecond roomySecond
  rw [← Log.Course.run_append] at tellsCounted
  obtain ⟨latest, tellsAgain⟩ := tellsCounted.growAll addsThird roomyThird
  rw [← Log.Course.run_append] at tellsAgain
  obtain ⟨after, batch, fetched, serves, missed, -, -⟩ :=
    sound.serves tells tellsThen tellsAgain txid
  have short := serves.short
  rw [sound.size] at short
  refine ⟨batch, by rw [fetched], ⟨serves.numbered, short, ?_, ?_⟩⟩
  · exact serves.numbered.eq_filter tellsAgain.increasing serves.known
  · rintro record atHand rfl nothing
    have early := reading.course.accepted_subset_run meanwhile.events
    have misses := missed nothing
    have buffered :=
      misses.buffered (tells.shows early) tellsAgain.words
        (sound.caches.mono early) atHand
    exact not_misses_of_buffered tells tellsThen tellsCounted buffered misses

/-- A log that was opened over segments, and a fetcher that has not fetched.
Which transaction ids the segments leave out was settled before. -/
def onSegments
    (disk : Disk)
    (directory : Location)
    (chapters : List Log.Chapter)
    (segmentSize batchSize : Nat) : Reading where
  course :=
    { disk := disk
      log := .ofSpans directory segmentSize (chapters.map Log.Chapter.span)
      accepted := chapters.flatMap Log.Chapter.records
      purged := []
      jumps := [⟨1, Log.lastCovered (chapters.map Log.Chapter.span)⟩] }
  fetcher := .new batchSize

variable {disk : Disk} {directory : Location} {chapters : List Log.Chapter}

theorem sound_onSegments
    (stored : ∀ chapter ∈ chapters,
      disk.item? (Segment.location directory chapter.span) =
        some (.file (Segment.bytes chapter.records)))
    {limit : Nat}
    (ascending : Span.Ascending limit (chapters.map Log.Chapter.span))
    (word : limit ≤ Word.max)
    (segmentSize batchSize : Nat) :
    (onSegments disk directory chapters segmentSize batchSize).Sound
      batchSize := by
  have shelved := Log.shelved_ofSpans stored ascending segmentSize
  refine ⟨⟨[], chapters, rfl, shelved,
    Nat.le_trans ascending.lastCovered_le word, (List.append_nil _).symm,
    shelved.ascending, ?_⟩, caches_new _ _, rfl⟩
  intro txid positive bound
  right
  refine ⟨_, List.mem_cons_self, ?_⟩
  simp only [Span.covers, Bool.and_eq_true, decide_eq_true_eq]
  exact ⟨positive, bound⟩

/-- Whatever happened to a log since it was opened over segments, and whatever
was fetched from it while it went on, a fetch in the middle of which the log
appends, rotates and flushes succeeds with a piece of the history, as long as no
transaction id that is fetched or appended to is the largest word. -/
theorem moves_fetch_piece
    (stored : ∀ chapter ∈ chapters,
      disk.item? (Segment.location directory chapter.span) =
        some (.file (Segment.bytes chapter.records)))
    {limit : Nat}
    (ascending : Span.Ascending limit (chapters.map Log.Chapter.span))
    (word : limit ≤ Word.max)
    (segmentSize batchSize : Nat)
    {sequence : List Move}
    (roomy :
      (onSegments disk directory chapters segmentSize batchSize).RoomyMoves
        sequence)
    (meanwhile : Meanwhile)
    (adds : ∀ event ∈ meanwhile.events, event.Adds)
    (txid : Nat)
    (fits : (Move.fetch meanwhile txid).Fits
      ((onSegments disk directory chapters segmentSize batchSize).moves
        sequence)) :
    ∃ batch,
      (((onSegments disk directory chapters segmentSize batchSize).moves
        sequence).fetchDuring meanwhile txid).2 = .ok batch ∧
      ((onSegments disk directory chapters segmentSize batchSize).moves
        sequence).Piece meanwhile batchSize txid batch := by
  have opened := sound_onSegments stored ascending word segmentSize batchSize
  exact (opened.moves roomy).piece adds fits.1 txid

/-- A segment with one record. -/
def firstChapter : Log.Chapter := ⟨⟨1, 1⟩, [⟨1, .makeDirectory "/a"⟩], rfl, rfl⟩

/-- A disk with this segment. -/
def firstDisk : Disk :=
  ((Disk.empty.put ["edits"] .directory).put
    (Segment.location ["edits"] firstChapter.span)
    (.file (Segment.bytes firstChapter.records)))

/-- A fetch that misses a record in the segments, because it is flushed only
behind that look, and in the buffers, because it has left them by then. -/
theorem moves_fetch_piece_rolling :
    ∃ batch,
      (((onSegments firstDisk ["edits"] [firstChapter] 0 2).moves
        [.log (.append (.createFile "/a/b")), .log .rotate,
          .fetch ⟨[.append (.makeDirectory "/d")], [], []⟩ 1]).fetchDuring
        ⟨[.roll], [.append (.makeDirectory "/e")], [.forceSync]⟩ 2).2 =
        .ok batch ∧
      ((onSegments firstDisk ["edits"] [firstChapter] 0 2).moves
        [.log (.append (.createFile "/a/b")), .log .rotate,
          .fetch ⟨[.append (.makeDirectory "/d")], [], []⟩ 1]).Piece
        ⟨[.roll], [.append (.makeDirectory "/e")], [.forceSync]⟩ 2 2 batch ∧
          batch ≠ [] := by
  have stored : ∀ chapter ∈ [firstChapter],
      firstDisk.item? (Segment.location ["edits"] chapter.span) =
        some (.file (Segment.bytes chapter.records)) := by
    intro chapter present
    obtain rfl := List.mem_singleton.mp present
    exact Disk.item?_put_self (by decide +kernel) _ _
  have ascending : Span.Ascending 1 ([firstChapter].map Log.Chapter.span) := by
    constructor <;> simp [firstChapter]
  have roomy : (onSegments firstDisk ["edits"] [firstChapter] 0 2).RoomyMoves
      [.log (.append (.createFile "/a/b")), .log .rotate,
        .fetch ⟨[.append (.makeDirectory "/d")], [], []⟩ 1] := by
    decide +kernel
  obtain ⟨batch, fetched, piece⟩ :=
    moves_fetch_piece stored ascending (by decide) 0 2 roomy
      ⟨[.roll], [.append (.makeDirectory "/e")], [.forceSync]⟩
    (by simp [Meanwhile.events, Log.Event.Adds]) 2 (by decide +kernel)
  refine ⟨batch, fetched, piece, ?_⟩
  exact piece.nonempty ⟨2, .createFile "/a/b"⟩ (.inr (.inl (by decide +kernel)))
    rfl

end Fetcher.Reading
end NameService
