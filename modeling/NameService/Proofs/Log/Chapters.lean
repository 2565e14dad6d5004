import NameService.Log
import NameService.Proofs.Disk.Steps
import NameService.Proofs.Log.Segment
import NameService.Proofs.Log.Span

/-!
# Segments and buffers

The segments of a log hold the records that have left its buffers, each under
the span that its file is named for. A flush, a rotation and what is made of
them move records from the buffers to new segments behind the others; a purge
drops segments at the front.
-/

namespace NameService

/-! ## Runs of transaction ids -/

namespace Record

/-- Records carry consecutive transaction ids from a first one on. -/
def Numbered (first : Nat) (records : List Record) : Prop :=
  records.map txid = List.range' first records.length

@[simp] theorem numbered_nil (first : Nat) : Numbered first [] := rfl

/-- Consecutive records in two parts are consecutive in each, the second part
behind the first. -/
theorem numbered_append {first : Nat} {left right : List Record} :
    Numbered first (left ++ right) ↔
      Numbered first left ∧ Numbered (first + left.length) right := by
  unfold Numbered
  rw [List.map_append, List.length_append, ← List.range'_append_1]
  refine ⟨fun same => List.append_inj same (by simp), ?_⟩
  rintro ⟨front, back⟩
  rw [front, back]

/-- Consecutive records end below the next transaction id. -/
theorem Numbered.bounds
    {first : Nat}
    {records : List Record}
    (numbered : Numbered first records)
    {record : Record}
    (present : record ∈ records) :
    first ≤ record.txid ∧ record.txid < first + records.length := by
  have inRange : record.txid ∈ List.range' first records.length :=
    numbered ▸ List.mem_map_of_mem present
  exact List.mem_range'_1.mp inRange

/-- The last of consecutive records carries the last transaction id. -/
theorem Numbered.maxTxid?
    {first : Nat}
    {records : List Record}
    (numbered : Numbered first records)
    (nonempty : records ≠ []) :
    Log.maxTxid? records = some (first + records.length - 1) := by
  rw [Log.maxTxid?, ← List.getLast?_map, numbered, List.getLast?_range']
  simp [nonempty]

end Record

namespace Span

/-- Spans cover the transaction ids behind one and up to another, each starting
where the one before it ends. -/
def Tile (start stop : Nat) : List Span → Prop
  | [] => start = stop
  | span :: rest =>
      span.first = start + 1 ∧ span.first ≤ span.last ∧ Tile span.last stop rest

theorem Tile.le
    {start stop : Nat}
    {spans : List Span}
    (tile : Tile start stop spans) :
    start ≤ stop := by
  induction spans generalizing start with
  | nil => exact Nat.le_of_eq tile
  | cons span rest hypothesis =>
      obtain ⟨starts, ordered, behind⟩ := tile
      have := hypothesis behind
      omega

/-- Spans that tile one behind the other tile together. -/
theorem Tile.append
    {start middle stop : Nat}
    {left right : List Span}
    (front : Tile start middle left)
    (back : Tile middle stop right) :
    Tile start stop (left ++ right) := by
  induction left generalizing start with
  | nil =>
      obtain rfl : start = middle := front
      exact back
  | cons span rest hypothesis =>
      obtain ⟨starts, ordered, behind⟩ := front
      exact ⟨starts, ordered, hypothesis behind⟩

/-- Spans that tile cover everything between their ends. -/
theorem Tile.covers
    {start stop : Nat}
    {spans : List Span}
    (tile : Tile start stop spans)
    {txid : Nat}
    (above : start < txid)
    (below : txid ≤ stop) :
    ∃ span ∈ spans, span.covers txid := by
  induction spans generalizing start with
  | nil =>
      have same : start = stop := tile
      omega
  | cons span rest hypothesis =>
      obtain ⟨starts, ordered, behind⟩ := tile
      by_cases inside : txid ≤ span.last
      · exact ⟨span, List.mem_cons_self, by simp [Span.covers, inside]; omega⟩
      · obtain ⟨other, present, covers⟩ := hypothesis behind (by omega)
        exact ⟨other, .tail _ present, covers⟩

/-- Spans each end before the next one starts, and none ends above a limit. -/
structure Ascending (limit : Nat) (spans : List Span) : Prop where
  /-- Each span ends before the ones behind it start. -/
  apart : spans.Pairwise fun left right => left.last < right.first
  /-- No span ends above the limit. -/
  limited : ∀ span ∈ spans, span.last ≤ limit
  /-- The ends of each span are in order. -/
  ordered : ∀ span ∈ spans, span.first ≤ span.last

theorem ascending_nil (limit : Nat) : Ascending limit [] :=
  ⟨.nil, fun _ present => (List.not_mem_nil present).elim,
    fun _ present => (List.not_mem_nil present).elim⟩

/-- What tiles a range ascends behind its start. -/
theorem Tile.ascending
    {start stop : Nat}
    {spans : List Span}
    (tile : Tile start stop spans) :
    Ascending stop spans ∧ ∀ span ∈ spans, start < span.first := by
  induction spans generalizing start with
  | nil =>
      exact ⟨ascending_nil stop,
        fun _ present => (List.not_mem_nil present).elim⟩
  | cons span rest hypothesis =>
      obtain ⟨starts, ordered, behind⟩ := tile
      obtain ⟨ascending, above⟩ := hypothesis behind
      refine ⟨⟨List.pairwise_cons.mpr ⟨above, ascending.apart⟩, ?_, ?_⟩, ?_⟩
      · exact List.forall_mem_cons.mpr ⟨behind.le, ascending.limited⟩
      · exact List.forall_mem_cons.mpr ⟨ordered, ascending.ordered⟩
      · refine List.forall_mem_cons.mpr ⟨by omega, fun other present => ?_⟩
        have := above other present
        omega

/-- Spans that tile what lies behind a limit may follow spans below it. -/
theorem Ascending.append_tile
    {start stop : Nat}
    {left right : List Span}
    (front : Ascending start left)
    (back : Tile start stop right) :
    Ascending stop (left ++ right) := by
  obtain ⟨ascending, above⟩ := back.ascending
  refine ⟨List.pairwise_append.mpr ⟨front.apart, ascending.apart, ?_⟩, ?_, ?_⟩
  · intro span inFront other inBack
    exact Nat.lt_of_le_of_lt (front.limited span inFront) (above other inBack)
  · refine List.forall_mem_append.mpr
      ⟨fun span present => ?_, ascending.limited⟩
    exact Nat.le_trans (front.limited span present) back.le
  · exact List.forall_mem_append.mpr ⟨front.ordered, ascending.ordered⟩

/-- Spans stay in order when others among them are dropped and the limit is
raised. -/
theorem Ascending.sublist
    {limit other : Nat}
    {spans rest : List Span}
    (ascending : Ascending limit spans)
    (fewer : rest.Sublist spans)
    (raised : limit ≤ other) :
    Ascending other rest :=
  ⟨ascending.apart.sublist fewer,
    fun span present =>
      Nat.le_trans (ascending.limited span (fewer.mem present)) raised,
    fun span present => ascending.ordered span (fewer.mem present)⟩

/-- No span of those in order ends behind the last one. -/
theorem Ascending.le_lastCovered
    {limit : Nat}
    {spans : List Span}
    (ascending : Ascending limit spans)
    {span : Span}
    (present : span ∈ spans) :
    span.last ≤ Log.lastCovered spans := by
  rcases List.eq_nil_or_concat spans with rfl | ⟨front, final, rfl⟩
  · cases present
  · rw [List.concat_eq_append] at ascending present ⊢
    have covered : Log.lastCovered (front ++ [final]) = final.last := by
      simp [Log.lastCovered]
    rw [covered]
    rcases List.mem_append.mp present with inFront | isFinal
    · have apart :=
        (List.pairwise_append.mp ascending.apart).2.2 span inFront final
          List.mem_cons_self
      have ordered := ascending.ordered final (by simp)
      omega
    · rw [List.mem_singleton.mp isFinal]

/-- The last of spans in order does not end above the limit. -/
theorem Ascending.lastCovered_le
    {limit : Nat}
    {spans : List Span}
    (ascending : Ascending limit spans) :
    Log.lastCovered spans ≤ limit := by
  unfold Log.lastCovered
  cases isLast : spans.getLast? with
  | none => exact Nat.zero_le _
  | some span => exact ascending.limited span (List.mem_of_getLast? isLast)

end Span

/-- A segment has a place of its own. -/
theorem Segment.location_injective
    {directory : Location}
    {left right : Span}
    (same : Segment.location directory left =
      Segment.location directory right) :
    left = right :=
  Span.fileName_injective (List.cons.inj (List.append_cancel_left same)).1

namespace Log

/-! ## Chapters -/

/-- A span and the records under it, which carry exactly its transaction
ids. -/
structure Chapter where
  span : Span
  records : List Record
  /-- The records start at the first transaction id of the span. -/
  numbered : Record.Numbered span.first records
  /-- The records end at the last transaction id of the span. -/
  complete : span.first + records.length = span.last + 1

/-- The records of a chapter carry the transaction ids of its span. -/
theorem Chapter.txids (chapter : Chapter) :
    chapter.records.map Record.txid =
      List.range' chapter.span.first
        (chapter.span.last + 1 - chapter.span.first) := by
  rw [← chapter.complete, Nat.add_sub_cancel_left]
  exact chapter.numbered

/-- The segments of a log hold the records of chapters, and its buffers the
records behind them. -/
structure Shelved
    (log : Log)
    (disk : Disk)
    (chapters : List Chapter) : Prop where
  /-- The spans of the log are those of the chapters. -/
  listed : log.spans = chapters.map Chapter.span
  /-- The file of each chapter holds its records. -/
  stored : ∀ chapter ∈ chapters,
    disk.item? (Segment.location log.directory chapter.span) =
      some (.file (Segment.bytes chapter.records))
  /-- The chapters stand in order below the last flushed transaction id. -/
  ascending : Span.Ascending log.flushedTxid (chapters.map Chapter.span)
  /-- The buffers go on behind the last flushed transaction id. -/
  numbered : Record.Numbered (log.flushedTxid + 1) log.buffered
  /-- The buffers end at the last transaction id. -/
  complete : log.flushedTxid + log.buffered.length = log.lastTxid

variable {log after : Log} {disk : Disk} {chapters added more : List Chapter}

/-- A log that is opened over segments of chapters shelves them. -/
theorem shelved_ofSpans
    {directory : Location}
    (stored : ∀ chapter ∈ chapters,
      disk.item? (Segment.location directory chapter.span) =
        some (.file (Segment.bytes chapter.records)))
    {limit : Nat}
    (ascending : Span.Ascending limit (chapters.map Chapter.span))
    (segmentSize : Nat) :
    Shelved (ofSpans directory segmentSize (chapters.map Chapter.span)) disk
      chapters where
  listed := rfl
  stored := stored
  ascending :=
    ⟨ascending.apart, fun _ present => ascending.le_lastCovered present,
      ascending.ordered⟩
  numbered := rfl
  complete := rfl

/-- A log without segments shelves nothing. -/
theorem shelved_ofSpans_nil
    (directory : Location)
    (segmentSize : Nat)
    (disk : Disk) :
    Shelved (ofSpans directory segmentSize []) disk [] :=
  shelved_ofSpans (fun _ present => (List.not_mem_nil present).elim)
    (Span.ascending_nil 0) segmentSize

/-- A log is opened with the segments that its directory is listed with. -/
theorem openAt_eq_ok
    {before disk : Disk}
    {directory : Location}
    {segmentSize : Nat}
    {log : Log}
    (opened : openAt before directory segmentSize = (disk, .ok log)) :
    ∃ spans, before.makeDirectories directory = (disk, .ok ()) ∧
      Segment.list disk directory = .ok spans ∧
      log = ofSpans directory segmentSize spans := by
  unfold openAt at opened
  split at opened
  · cases opened
  · rename_i made isMade
    obtain ⟨rfl, answer⟩ := Prod.mk.inj opened
    cases listed : Segment.list made directory with
    | error error => simp [listed, Except.map] at answer
    | ok spans =>
        simp only [listed, Except.map, Except.ok.injEq] at answer
        exact ⟨spans, isMade, rfl, answer.symm⟩

/-! ## Appending and advancing -/

/-- A mutation is appended under the transaction id that goes up by one, if
there is a next one. -/
theorem append_of_lt (room : log.lastTxid < Word.max) (operation : Operation) :
    log.append operation =
      ({ log with
          active := log.active ++ [⟨log.lastTxid + 1, operation⟩]
          lastTxid := log.lastTxid + 1 }, ⟨log.lastTxid + 1, operation⟩) := by
  rw [append, Word.next_of_lt room]

theorem lastTxid_append
    (room : log.lastTxid < Word.max)
    (operation : Operation) :
    (log.append operation).1.lastTxid = log.lastTxid + 1 := by
  rw [append_of_lt room]

/-- A record under the next transaction id is buffered behind the others. -/
theorem Shelved.append_record
    (shelved : Shelved log disk chapters)
    {record : Record}
    (next : record.txid = log.lastTxid + 1) :
    Shelved { log with
      active := log.active ++ [record], lastTxid := record.txid } disk
      chapters := by
  have grown :
      ({ log with
          active := log.active ++ [record],
          lastTxid := record.txid }).buffered =
      log.buffered ++ [record] := by
    simp [buffered]
  refine ⟨shelved.listed, shelved.stored, shelved.ascending, ?_, ?_⟩
  · rw [grown, Record.numbered_append]
    refine ⟨shelved.numbered, ?_⟩
    have complete := shelved.complete
    simp [Record.Numbered, next]
    omega
  · have complete := shelved.complete
    rw [grown, List.length_append, List.length_singleton]
    simp only [next]
    omega

/-- An advance that moves the log finds its buffers empty. -/
theorem advanceTo_cases (log : Log) (txid : Nat) :
    log.advanceTo txid = log ∨
      log.lastTxid < txid ∧ log.buffered = [] ∧
        log.advanceTo txid =
          { log with
            lastTxid := txid, flushedTxid := max log.flushedTxid txid } := by
  unfold advanceTo
  split
  · exact .inl rfl
  · rename_i ahead
    split
    · rename_i empty
      simp only [Bool.and_eq_true, List.isEmpty_iff] at empty
      exact .inr ⟨Nat.lt_of_not_le ahead, by simp [buffered, empty], rfl⟩
    · exact .inl rfl

/-- An advance keeps the segments of a log in order. -/
theorem Shelved.advanceTo (shelved : Shelved log disk chapters) (txid : Nat) :
    Shelved (log.advanceTo txid) disk chapters := by
  rcases advanceTo_cases log txid with same | ⟨ahead, empty, moved⟩
  · rw [same]
    exact shelved
  · rw [moved]
    have stillEmpty :
        ({ log with
            lastTxid := txid, flushedTxid := max log.flushedTxid txid } :
        Log).buffered = [] := empty
    have complete := shelved.complete
    rw [empty, List.length_nil] at complete
    refine ⟨shelved.listed, shelved.stored,
      shelved.ascending.sublist (.refl _) (Nat.le_max_left _ _), ?_, ?_⟩
    · rw [stillEmpty]
      exact Record.numbered_nil _
    · rw [stillEmpty]
      simp only [List.length_nil]
      omega

/-! ## Flushing -/

/-- A log moved records from the front of its buffers to new segments. -/
structure Flushes (before after : Log) (added : List Chapter) : Prop where
  directory : after.directory = before.directory
  lastTxid : after.lastTxid = before.lastTxid
  /-- The records of the new segments were at the front of the buffers. -/
  buffered : before.buffered = added.flatMap Chapter.records ++ after.buffered
  /-- The new segments go on behind the last flushed transaction id. -/
  tile : Span.Tile before.flushedTxid after.flushedTxid (added.map Chapter.span)

theorem Flushes.refl (log : Log) : Flushes log log [] := ⟨rfl, rfl, rfl, rfl⟩

theorem Flushes.trans
    {before middle after : Log}
    (first : Flushes before middle added)
    (second : Flushes middle after more) :
    Flushes before after (added ++ more) where
  directory := second.directory.trans first.directory
  lastTxid := second.lastTxid.trans first.lastTxid
  buffered := by
    rw [first.buffered, second.buffered, List.flatMap_append, List.append_assoc]
  tile := by
    rw [List.map_append]
    exact first.tile.append second.tile

/-- An operation of the log on the disk flushed records and left the segments in
order. -/
def Kept (log : Log) (chapters : List Chapter) (outcome : Outcome Log ε α) :
    Prop :=
  ∃ added, Flushes log outcome.state added ∧
    Shelved outcome.state outcome.disk (chapters ++ added)

/-- A segment is not written over by another one, nor by a scratch file. -/
theorem location_ne_of_flushed
    (ascending : Span.Ascending log.flushedTxid (chapters.map Chapter.span))
    {chapter : Chapter}
    (present : chapter ∈ chapters)
    (directory : Location)
    (span : Span)
    (above : log.flushedTxid < span.first) :
    Segment.location directory chapter.span ≠ scratchLocation directory span ∧
      Segment.location directory chapter.span ≠
        Segment.location directory span := by
  refine ⟨fun same => ?_, fun same => ?_⟩
  · have names := (List.cons.inj (List.append_cancel_left same)).1
    exact Span.fileName_ne_scratch _ _ names
  · have limited := ascending.limited chapter.span (List.mem_map_of_mem present)
    have ordered := ascending.ordered chapter.span (List.mem_map_of_mem present)
    rw [Segment.location_injective same] at limited ordered
    omega

/-- The sealed records as a chapter. -/
theorem Shelved.sealed
    (shelved : Shelved log disk chapters)
    {last : Nat}
    (isLast : maxTxid? log.sealing = some last) :
    Record.Numbered (log.flushedTxid + 1) log.sealing ∧
      Record.Numbered (last + 1) log.active ∧
      log.flushedTxid + 1 + log.sealing.length = last + 1 ∧
      log.sealing ≠ [] := by
  have nonempty : log.sealing ≠ [] := by
    intro empty
    simp [maxTxid?, empty] at isLast
  obtain ⟨sealed, active⟩ := Record.numbered_append.mp shelved.numbered
  have ends := sealed.maxTxid? nonempty
  rw [isLast] at ends
  have some_sealed := List.length_pos_iff.mpr nonempty
  have same : last = log.flushedTxid + 1 + log.sealing.length - 1 :=
    Option.some.inj ends
  have bound : log.flushedTxid + 1 + log.sealing.length = last + 1 := by omega
  exact ⟨sealed, bound ▸ active, bound, nonempty⟩

/-- While records are sealed there is a transaction id behind the last flushed
one. -/
theorem Shelved.next_flushedTxid
    (shelved : Shelved log disk chapters)
    (word : log.lastTxid ≤ Word.max)
    (nonempty : log.sealing ≠ []) :
    Word.next log.flushedTxid = log.flushedTxid + 1 := by
  have some_sealed := List.length_pos_iff.mpr nonempty
  have complete := shelved.complete
  rw [buffered, List.length_append] at complete
  exact Word.next_of_lt (by omega)

/-- A flush moves the sealed records to one new segment, or moves nothing. -/
theorem Shelved.flush
    (shelved : Shelved log disk chapters)
    (word : log.lastTxid ≤ Word.max) :
    Kept log chapters (log.flush disk) := by
  unfold Log.flush
  split
  · exact ⟨[], .refl log, by simpa using shelved⟩
  · rename_i last isLast
    obtain ⟨sealed, active, bound, nonempty⟩ := shelved.sealed isLast
    rw [shelved.next_flushedTxid word nonempty]
    simp only
    split
    · rename_i after error failed
      refine ⟨[], .refl log, ?_⟩
      rw [List.append_nil]
      refine { shelved with stored := fun chapter present => ?_ }
      have elsewhere :=
        location_ne_of_flushed shelved.ascending present log.directory
          ⟨log.flushedTxid + 1, last⟩ (Nat.lt_succ_self _)
      rw [Disk.item?_of_replace_error failed elsewhere.1]
      exact shelved.stored chapter present
    · rename_i after done
      have some_sealed := List.length_pos_iff.mpr nonempty
      let chapter : Chapter :=
        ⟨⟨log.flushedTxid + 1, last⟩, log.sealing, sealed, bound⟩
      have tile : Span.Tile log.flushedTxid last [chapter.span] :=
        ⟨rfl, show log.flushedTxid + 1 ≤ last by omega, rfl⟩
      refine ⟨[chapter], ⟨rfl, rfl, ?_, tile⟩, ⟨?_, ?_, ?_, ?_, ?_⟩⟩
      · simp [buffered, chapter]
      · simp [shelved.listed, chapter]
      · intro other present
        rcases List.mem_append.mp present with inFront | isNew
        · have elsewhere :=
            location_ne_of_flushed shelved.ascending inFront log.directory
              ⟨log.flushedTxid + 1, last⟩ (Nat.lt_succ_self _)
          have kept :=
            Disk.item?_performAll_replaceSteps disk (Segment.bytes log.sealing)
              elsewhere.1 elsewhere.2
          rw [show (disk.performAll (Disk.replaceSteps _ _ _)).1 = after from
            congrArg Prod.fst done] at kept
          exact kept.trans (shelved.stored other inFront)
        · obtain rfl := List.mem_singleton.mp isNew
          exact Disk.item?_replaced done
      · rw [List.map_append]
        exact shelved.ascending.append_tile tile
      · simpa [buffered] using active
      · have complete := shelved.complete
        simp only [buffered, List.length_append, List.nil_append] at complete ⊢
        omega

/-- A rotation seals the active records, or does nothing. -/
theorem rotate_cases (log : Log) :
    log.rotate.1 = log ∨
      log.sealing = [] ∧
      log.rotate.1 = { log with sealing := log.active, active := [] } := by
  unfold rotate
  split
  · rename_i empty
    exact .inr ⟨List.isEmpty_iff.mp empty, rfl⟩
  · exact .inl rfl

/-- A rotation buffers what was buffered. -/
theorem buffered_rotate (log : Log) : log.rotate.1.buffered = log.buffered := by
  rcases log.rotate_cases with same | ⟨empty, moved⟩
  · rw [same]
  · simp [moved, buffered, empty]

/-- A rotation moves no record to a segment. -/
theorem flushes_rotate (log : Log) : Flushes log log.rotate.1 [] := by
  have sameBuffer := (buffered_rotate log).symm
  rcases log.rotate_cases with same | ⟨-, moved⟩
  · rw [same]
    exact .refl log
  · exact ⟨by rw [moved], by rw [moved], sameBuffer, by rw [moved]; rfl⟩

/-- A flush neither appends to a log nor moves it. -/
theorem flush_same (log : Log) (disk : Disk) :
    (log.flush disk).state.lastTxid = log.lastTxid ∧
      (log.flush disk).state.directory = log.directory := by
  unfold Log.flush
  split
  · exact ⟨rfl, rfl⟩
  · simp only
    split <;> exact ⟨rfl, rfl⟩

theorem rotate_same (log : Log) :
    log.rotate.1.lastTxid = log.lastTxid ∧
      log.rotate.1.directory = log.directory :=
  ⟨(flushes_rotate log).lastTxid, (flushes_rotate log).directory⟩

theorem Shelved.rotate (shelved : Shelved log disk chapters) :
    Shelved log.rotate.1 disk chapters := by
  have sameBuffer := buffered_rotate log
  rcases log.rotate_cases with same | ⟨-, moved⟩
  · rw [same]
    exact shelved
  · rw [moved] at sameBuffer ⊢
    exact ⟨shelved.listed, shelved.stored, shelved.ascending,
      sameBuffer ▸ shelved.numbered, sameBuffer ▸ shelved.complete⟩

/-- What is kept by one operation and then by another is kept by both. -/
theorem Kept.trans
    {before middle : Log}
    (first : Flushes before middle added)
    {outcome : Outcome Log ε α}
    (second : Kept middle (chapters ++ added) outcome) :
    Kept before chapters outcome := by
  obtain ⟨more, flushes, shelved⟩ := second
  exact ⟨added ++ more, first.trans flushes, by rwa [← List.append_assoc]⟩

/-- Rolling moves records to new segments. -/
theorem Shelved.roll
    (shelved : Shelved log disk chapters)
    (word : log.lastTxid ≤ Word.max) :
    Kept log chapters (log.roll disk) :=
  .trans (flushes_rotate log)
    (by simpa [Log.roll] using shelved.rotate.flush (log.rotate_same.1 ▸ word))

/-- Flushing everything moves records to new segments. -/
theorem Shelved.forceSync
    (shelved : Shelved log disk chapters)
    (word : log.lastTxid ≤ Word.max) :
    Kept log chapters (log.forceSync disk) := by
  obtain ⟨added, flushes, flushed⟩ := shelved.flush word
  unfold Log.forceSync
  simp only
  split
  · exact ⟨added, flushes, flushed⟩
  · have rotates := flushes_rotate (log.flush disk).state
    have rotated := flushed.rotate
    split
    · rename_i rotatedLog error failed
      rw [failed] at rotates rotated
      exact ⟨added, by simpa using flushes.trans rotates, rotated⟩
    · rename_i rotatedLog done
      rw [done] at rotates rotated
      have both := flushes.trans rotates
      exact .trans both (by simpa using rotated.flush (both.lastTxid ▸ word))

/-- A flush that succeeds leaves nothing sealed, and nothing else behind. -/
theorem buffered_flush_of_ok
    {span : Option Span}
    (done : (log.flush disk).answer = .ok span) :
    (log.flush disk).state.sealing = [] ∧
      (log.flush disk).state.active = log.active := by
  unfold Log.flush at done ⊢
  split at done
  · rename_i nothing
    exact ⟨by simpa [maxTxid?] using nothing, rfl⟩
  · simp only at done ⊢
    split at done
    · cases done
    · exact ⟨rfl, rfl⟩

/-- Once everything was flushed nothing is buffered. -/
theorem buffered_forceSync_of_ok
    {span : Option Span}
    (done : (log.forceSync disk).answer = .ok span) :
    (log.forceSync disk).state.buffered = [] := by
  unfold Log.forceSync at done ⊢
  simp only at done ⊢
  split at done
  · cases done
  · rename_i first flushed
    obtain ⟨unsealed, -⟩ := buffered_flush_of_ok flushed
    have rotated : (log.flush disk).state.rotate =
        ({ (log.flush disk).state with
          sealing := (log.flush disk).state.active, active := [] },
          .ok ()) := by
      simp [rotate, unsealed]
    rw [rotated] at done
    simp only [rotated] at done ⊢
    obtain ⟨empty, same⟩ := buffered_flush_of_ok done
    rw [buffered, empty, same]
    rfl

/-! ## Purging -/

/-- Removing a segment touches no other file. -/
theorem item?_removeSegment
    (disk : Disk)
    (directory : Location)
    {span : Span}
    {place : Location}
    (other : place ≠ Segment.location directory span) :
    (removeSegment disk directory span).1.item? place = disk.item? place := by
  have untouched : place ∉
      (Disk.Step.remove (Segment.location directory span)).touches := by
    simpa [Disk.Step.touches] using other
  have kept := Disk.item?_perform disk untouched
  unfold removeSegment
  split <;> rename_i outcome <;> rwa [outcome] at kept

/-- A segment that is not removed stays as it is, with all others. -/
theorem item?_of_removeSegment_error
    {disk after : Disk}
    {directory : Location}
    {span : Span}
    {error : LogError}
    (failed : removeSegment disk directory span = (after, .error error))
    (place : Location) :
    after.item? place = disk.item? place := by
  unfold removeSegment at failed
  split at failed
  · cases failed
  · cases failed
  · rename_i kept cause outcome
    obtain ⟨rfl, -⟩ := Prod.mk.inj failed
    rw [Disk.eq_of_error outcome (by simp)]
    rfl

/-- A purge drops spans at the front that end at or below its transaction id,
and touches no file of others. -/
theorem purgeSpans_cases
    (disk : Disk)
    (directory : Location)
    (txid : Nat)
    (spans : List Span) :
    ∃ dropped, spans = dropped ++ (purgeSpans disk directory txid spans).2.1 ∧
      (∀ span ∈ dropped, span.last ≤ txid) ∧
      ∀ place, (∀ span ∈ dropped, place ≠ Segment.location directory span) →
        (purgeSpans disk directory txid spans).1.item? place =
          disk.item? place := by
  induction spans generalizing disk with
  | nil =>
      exact ⟨[], rfl, fun _ present => (List.not_mem_nil present).elim,
        fun _ _ => rfl⟩
  | cons span rest hypothesis =>
      rw [purgeSpans]
      split
      · exact ⟨[], rfl, fun _ present => (List.not_mem_nil present).elim,
          fun _ _ => rfl⟩
      · rename_i covered
        split
        · rename_i after error failed
          exact ⟨[], rfl, fun _ present => (List.not_mem_nil present).elim,
            fun place _ => item?_of_removeSegment_error failed place⟩
        · rename_i after removed
          obtain ⟨dropped, split, below, frame⟩ := hypothesis after
          refine ⟨span :: dropped, congrArg (span :: ·) split,
            List.forall_mem_cons.mpr ⟨Nat.le_of_not_lt covered, below⟩,
            fun place other => ?_⟩
          obtain ⟨notSpan, notDropped⟩ := List.forall_mem_cons.mp other
          have first := item?_removeSegment disk directory notSpan
          rw [removed] at first
          exact (frame place notDropped).trans first

/-- A purge drops segments at the front and keeps the others. -/
theorem Shelved.purgeThrough
    (shelved : Shelved log disk chapters)
    (txid : Nat) :
    ∃ dropped kept, chapters = dropped ++ kept ∧
      (∀ chapter ∈ dropped, chapter.span.last ≤ txid) ∧
      (log.purgeThrough disk txid).state =
        { log with spans := kept.map Chapter.span } ∧
      Shelved (log.purgeThrough disk txid).state
        (log.purgeThrough disk txid).disk kept := by
  obtain ⟨dropped, split, below, frame⟩ :=
    purgeSpans_cases disk log.directory txid (chapters.map Chapter.span)
  obtain ⟨front, back, isSplit, isFront, isBack⟩ :=
    List.map_eq_append_iff.mp split
  have state : (log.purgeThrough disk txid).state =
      { log with spans := back.map Chapter.span } := by
    simp [Log.purgeThrough, shelved.listed, ← isBack]
  refine ⟨front, back, isSplit, ?_, state, ?_⟩
  · intro chapter present
    exact below chapter.span (isFront ▸ List.mem_map_of_mem present)
  · rw [state]
    refine ⟨rfl, fun chapter present => ?_, ?_, shelved.numbered,
      shelved.complete⟩
    · have apart := shelved.ascending.apart
      rw [isSplit, List.map_append] at apart
      have ordered := shelved.ascending.ordered
      have kept :=
        frame (Segment.location log.directory chapter.span)
          fun span inFront same => by
        have above :=
          (List.pairwise_append.mp apart).2.2 span (isFront ▸ inFront)
            chapter.span (List.mem_map_of_mem present)
        have spanOrdered :=
          ordered span (split ▸ List.mem_append_left _ inFront)
        rw [Segment.location_injective same] at above
        omega
      have sameDisk : (log.purgeThrough disk txid).disk =
          (purgeSpans disk log.directory txid
            (chapters.map Chapter.span)).1 := by
        simp [Log.purgeThrough, shelved.listed]
      rw [sameDisk, kept]
      exact shelved.stored chapter (isSplit ▸ List.mem_append_right _ present)
    · exact shelved.ascending.sublist
        ((isSplit ▸ List.sublist_append_right front back).map Chapter.span)
        (Nat.le_refl _)

end Log
end NameService
