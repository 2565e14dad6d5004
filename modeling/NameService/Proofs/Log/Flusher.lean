import NameService.Log.Fetch
import NameService.Proofs.Disk.Directories
import NameService.Proofs.Log.Archive
import NameService.Proofs.Runs
import NameService.Proofs.Text.Length

/-!
# Wake-ups of the flusher

A flush that fails leaves its records sealed, for a later wake-up of the flusher
to write. A wake-up looks at the active buffer alone, which the failure left
empty: it writes what is sealed once enough was appended behind it, and until
then does nothing, however often the flusher wakes up and however well the disk
does.
-/

namespace NameService

namespace Span

/-- The name of a segment's file is that of a file. -/
theorem plain_fileName {span : Span} (sound : span.Sound) :
    Disk.Plain span.fileName ∧ Disk.Plain (span.fileName ++ ".tmp") := by
  have noEnd : '\x00' ∉ span.fileName.toList := by
    have first : '\x00' ∉ Text.decimal span.first :=
      Text.not_mem_decimal (by decide)
    have last : '\x00' ∉ Text.decimal span.last :=
      Text.not_mem_decimal (by decide)
    have behind : '\x00' ∉ ending := by decide
    simp [fileName, fileNameChars, first, last, behind]
  have first := Text.utf8Len_decimal_le (Nat.le_trans sound.ordered sound.word)
  have last := Text.utf8Len_decimal_le sound.word
  have bytes : span.fileName.utf8ByteSize = String.utf8Len span.fileNameChars :=
    String.utf8ByteSize_ofList _
  have underscore : '_'.utf8Size = 1 := rfl
  have behind : String.utf8Len ending = 4 := rfl
  have size : span.fileName.utf8ByteSize ≤ 2 * Text.wordLength + 5 := by
    rw [bytes, fileNameChars, String.utf8Len_append, String.utf8Len_append,
      String.utf8Len_cons, underscore, behind]
    omega
  have scratch : (".tmp" : String).utf8ByteSize = 4 := by decide
  rw [Text.wordLength] at size
  refine ⟨⟨noEnd, ?_⟩, ⟨?_, ?_⟩⟩
  · exact Nat.le_trans size (by decide)
  · rw [String.toList_append, List.mem_append]
    exact not_or.mpr ⟨noEnd, by decide⟩
  · rw [String.utf8ByteSize_append, scratch, Location.maxNameLength]
    omega

end Span

namespace Log

variable {log : Log} {disk : Disk}

/-! ## Disks on which segments are written -/

/-- Any segment can be written in a directory. -/
def Writable (disk : Disk) (directory : Location) : Prop :=
  ∀ span : Span, span.Sound → ∀ content, ∃ after,
    disk.performAll (segmentSteps directory span content) = (after, .ok ())

/-- Segments are written in a directory that stands, if no step fails and no
directory is in the way. -/
theorem writable_of_stands
    (reliable : disk.Reliable)
    {directory : Location}
    (stands : disk.Stands directory)
    (noEnd : ∀ name ∈ directory, '\x00' ∉ name.toList)
    (free : ∀ name, disk.item? (directory ++ [name]) ≠ some .directory) :
    Writable disk directory := by
  intro span sound content
  obtain ⟨targetPlain, scratchPlain⟩ := Span.plain_fileName sound
  apply Disk.replace_of_stands reliable stands noEnd ?_ scratchPlain targetPlain
    (free _) (free _)
  exact (Span.fileName_ne_scratch span span).symm

/-! ## Buffers that are counted -/

/-- The buffers of a log hold a record under each transaction id behind the last
flushed one, up to the last one. -/
structure Counted (log : Log) : Prop where
  numbered : Record.Numbered (log.flushedTxid + 1) log.buffered
  complete : log.flushedTxid + log.buffered.length = log.lastTxid
  word : log.lastTxid ≤ Word.max

/-- An opened log has nothing buffered, and its segments end at a word. -/
theorem counted_of_openAt
    {before disk : Disk}
    {directory : Location}
    {segmentSize : Nat}
    {log : Log}
    (opened : openAt before directory segmentSize = (disk, .ok log)) :
    Counted log := by
  obtain ⟨spans, -, listed, rfl⟩ := openAt_eq_ok opened
  refine ⟨Record.numbered_nil _, rfl, ?_⟩
  rw [show (ofSpans directory segmentSize spans).lastTxid =
    (spans.getLast?.map Span.last).getD 0 from rfl]
  cases isLast : spans.getLast? with
  | none => exact Nat.zero_le _
  | some span =>
      exact (Segment.sound_of_mem_list listed
        (List.mem_of_getLast? isLast)).word

/-- Buffers that are counted go on behind no segments at all. -/
theorem Counted.shelved (counted : Counted log) (disk : Disk) :
    Shelved (log.relisted []) disk [] where
  listed := rfl
  stored _ present := (List.not_mem_nil present).elim
  ascending := Span.ascending_nil _
  numbered := counted.numbered
  complete := counted.complete

theorem Counted.append_record
    (counted : Counted log)
    {record : Record}
    (room : log.lastTxid < Word.max)
    (next : record.txid = Word.next log.lastTxid) :
    Counted { log with
      active := log.active ++ [record], lastTxid := record.txid } := by
  rw [Word.next_of_lt room] at next
  have shelved := (counted.shelved Disk.empty).append_record next
  exact ⟨shelved.numbered, shelved.complete, next ▸ room⟩

theorem Counted.rotate (counted : Counted log) : Counted log.rotate.1 := by
  have shelved := (counted.shelved Disk.empty).rotate
  rw [rotate_relisted] at shelved
  exact ⟨shelved.numbered, shelved.complete, log.rotate_same.1 ▸ counted.word⟩

theorem Counted.roll (counted : Counted log) (disk : Disk) :
    Counted (log.roll disk).state := by
  obtain ⟨added, flushes, shelved⟩ := (counted.shelved disk).roll counted.word
  obtain ⟨listed, -, rolled⟩ := oblivious_roll log disk []
  rw [rolled] at flushes shelved
  exact ⟨shelved.numbered, shelved.complete, flushes.lastTxid ▸ counted.word⟩

theorem Counted.flusherTick (counted : Counted log) (disk : Disk) :
    Counted (log.flusherTick disk).2 := by
  unfold Log.flusherTick
  split
  · exact counted.roll disk
  · exact counted

/-- The sealed records of a log of words make a segment of words. -/
theorem Counted.sealed
    (counted : Counted log)
    {last : Nat}
    (isLast : maxTxid? log.sealing = some last) :
    Word.next log.flushedTxid = log.flushedTxid + 1 ∧
      Span.Sound ⟨log.flushedTxid + 1, last⟩ ∧
      ∀ record ∈ log.sealing, record.txid ≤ Word.max := by
  obtain ⟨numbered, -, bound, nonempty⟩ :=
    (counted.shelved Disk.empty).sealed isLast
  have complete := counted.complete
  rw [buffered, List.length_append] at complete
  have word := counted.word
  have positive : 0 < log.sealing.length := List.length_pos_iff.mpr nonempty
  have sameBound : log.flushedTxid + 1 + log.sealing.length = last + 1 := bound
  refine ⟨(counted.shelved Disk.empty).next_flushedTxid word nonempty, ?_, ?_⟩
  · constructor <;> simp only <;> omega
  · intro record present
    have below : record.txid < log.flushedTxid + 1 + log.sealing.length :=
      (numbered.bounds present).2
    omega

/-! ## One wake-up -/

/-- What is sealed is written if a segment can be, and read back. -/
theorem flush_of_writable
    (counted : Counted log)
    (writable : Writable disk log.directory) :
    ∃ written, (log.flush disk).answer = .ok written ∧
      (log.sealing ≠ [] → ∃ span ∈ (log.flush disk).state.spans,
        (log.flush disk).state.readSegment (log.flush disk).disk span =
          .ok log.sealing) := by
  cases isLast : maxTxid? log.sealing with
  | none =>
      have nothing : log.sealing = [] := by simpa [maxTxid?] using isLast
      exact ⟨none, by simp [Log.flush, isLast],
        fun something => absurd nothing something⟩
  | some last =>
      obtain ⟨next, sound, recordWords⟩ := counted.sealed isLast
      obtain ⟨after, done⟩ := writable _ sound (Segment.bytes log.sealing)
      have flushed : log.flush disk =
          ⟨after, { log with
            sealing := [], spans := log.spans ++ [⟨log.flushedTxid + 1, last⟩]
            flushedTxid := last }, .ok (some ⟨log.flushedTxid + 1, last⟩)⟩ := by
        simp only [Log.flush, isLast, next, done]
      rw [flushed]
      refine ⟨_, rfl, fun _ => ⟨⟨log.flushedTxid + 1, last⟩, by simp, ?_⟩⟩
      exact Segment.read_of_item? (Disk.item?_replaced done) recordWords

/-- A wake-up that finds the active buffer too small does nothing, and nor do
those that follow it. -/
theorem flusherTicks_of_not_due
    (early : log.shouldRotate = false)
    (disk : Disk)
    (count : Nat) :
    log.flusherTicks disk count = (disk, log) := by
  have idle : log.flusherTick disk = (disk, log) := by simp [flusherTick, early]
  induction count with
  | zero => rfl
  | succ count hypothesis =>
      rw [flusherTicks, idle]
      exact hypothesis

/-- What a wake-up does about records that wait to be written. -/
structure Retries (log : Log) (disk : Disk) : Prop where
  /-- Behind a wake-up nothing is sealed if nothing was before or the active
  buffer was due. -/
  unsealed_iff : (log.flusherTick disk).2.sealing = [] ↔
    log.sealing = [] ∨ log.shouldRotate = true
  /-- Sealed records that are written are in a segment, and the active ones wait
  on. -/
  retried : log.shouldRotate = true → log.sealing ≠ [] →
    (log.flusherTick disk).2.active = log.active ∧
      ∃ span ∈ (log.flusherTick disk).2.spans,
        (log.flusherTick disk).2.readSegment (log.flusherTick disk).1 span =
          .ok log.sealing
  /-- If none are sealed the active ones are written. -/
  rotated : log.shouldRotate = true → log.sealing = [] → log.active ≠ [] →
    (log.flusherTick disk).2.active = [] ∧
      ∃ span ∈ (log.flusherTick disk).2.spans,
        (log.flusherTick disk).2.readSegment (log.flusherTick disk).1 span =
          .ok log.active
  /-- While the active buffer is too small nothing is written, however often the
  flusher wakes up. -/
  idle : log.shouldRotate = false →
    ∀ count, log.flusherTicks disk count = (disk, log)

theorem Counted.retries
    (counted : Counted log)
    (writable : Writable disk log.directory) :
    Retries log disk := by
  have sameDirectory := log.rotate_same.2
  obtain ⟨written, done, isRead⟩ :=
    flush_of_writable counted.rotate (sameDirectory ▸ writable)
  obtain ⟨unsealed, active⟩ := buffered_flush_of_ok done
  have isRoll : log.shouldRotate = true →
      log.flusherTick disk =
        ((log.rotate.1.flush disk).disk, (log.rotate.1.flush disk).state) := by
    intro due
    simp only [Log.flusherTick, due, if_true]
    rfl
  constructor
  · cases due : log.shouldRotate with
    | true => simp [isRoll due, unsealed]
    | false => simp [Log.flusherTick, due]
  · intro due waiting
    -- Sealed records stand in the way of a rotation.
    have same : log.rotate.1 = log := by simp [Log.rotate, waiting]
    rw [isRoll due]
    rw [same] at active isRead ⊢
    exact ⟨active, isRead waiting⟩
  · intro due nothing nonempty
    have moved : log.rotate.1 =
        { log with sealing := log.active, active := [] } := by
      simp [Log.rotate, nothing]
    rw [isRoll due]
    rw [moved] at active isRead ⊢
    exact ⟨active, isRead nonempty⟩
  · exact fun early => flusherTicks_of_not_due early disk

/-! ## What happens between wake-ups -/

/-- What happens to a log that has a flusher. -/
inductive Beat
  /-- Append a mutation under the next transaction id. -/
  | append (operation : Operation)
  /-- Append a record that carries its transaction id. -/
  | appendRecord (record : Record)
  /-- The flusher wakes up. -/
  | wake

/-- A beat that appends nothing behind the largest word. -/
def Beat.Fits (log : Log) : Beat → Prop
  | .append _ => log.lastTxid < Word.max
  | .appendRecord _ => log.lastTxid < Word.max
  | .wake => True

instance (log : Log) : DecidablePred (Beat.Fits log)
  | .append _ => inferInstanceAs (Decidable (log.lastTxid < Word.max))
  | .appendRecord _ => inferInstanceAs (Decidable (log.lastTxid < Word.max))
  | .wake => .isTrue trivial

namespace Moment

/-- A log and its disk after one more beat. -/
def beat (moment : Moment) : Beat → Moment
  | .append operation => { moment with log := (moment.log.append operation).1 }
  | .appendRecord record =>
      { moment with log := (moment.log.appendRecord record).1 }
  | .wake =>
      let (disk, log) := moment.log.flusherTick moment.disk
      ⟨log, disk⟩

/-- A log and its disk after a sequence of beats. -/
def run (moment : Moment) (beats : List Beat) : Moment :=
  beats.foldl beat moment

/-- Every beat of a sequence fits the log that it finds. -/
def Roomy (moment : Moment) (beats : List Beat) : Prop :=
  Along beat (fun moment beat => beat.Fits moment.log) moment beats

instance (moment : Moment) : DecidablePred moment.Roomy := fun beats =>
  inferInstanceAs
    (Decidable
      (Along beat (fun moment beat => beat.Fits moment.log) moment beats))

end Moment

/-- Every beat that fits keeps the buffers counted. -/
theorem Counted.beat
    {moment : Moment}
    (counted : Counted moment.log)
    {beat : Beat}
    (fits : beat.Fits moment.log) :
    Counted (moment.beat beat).log := by
  cases beat with
  | append operation => exact counted.append_record fits rfl
  | appendRecord record =>
      simp only [Moment.beat, appendRecord]
      split
      · rename_i next
        exact counted.append_record fits next
      · exact counted
  | wake => exact counted.flusherTick moment.disk

/-- Every sequence of beats that fit keeps the buffers counted. -/
theorem Counted.run
    {moment : Moment}
    (counted : Counted moment.log)
    {beats : List Beat}
    (roomy : moment.Roomy beats) :
    Counted (moment.run beats).log :=
  Along.foldl_induction roomy (fun moment => Counted moment.log)
    (fun counted fits => counted.beat fits) counted

/-- After any appends and wake-ups of the flusher, whatever steps of the disk
failed, a wake-up at which segments can be written writes what an earlier one
left sealed exactly if enough was appended meanwhile for the active buffer to be
due. Otherwise neither this one nor any number of them does anything. -/
theorem run_retries
    {before disk : Disk}
    {directory : Location}
    {segmentSize : Nat}
    {log : Log}
    (opened : openAt before directory segmentSize = (disk, .ok log))
    {beats : List Beat}
    (roomy : (Moment.mk log disk).Roomy beats)
    {ready : Disk}
    (writable : Writable ready ((Moment.mk log disk).run beats).log.directory) :
    Retries ((Moment.mk log disk).run beats).log ready := by
  have counted : Counted (Moment.mk log disk).log := counted_of_openAt opened
  exact (counted.run roomy).retries writable

/-- A disk on which the file of the first segment is not made at first. -/
def stubbornDisk : Disk :=
  Disk.empty.failing fun step => if step = 1 then some ⟨.other "", 0⟩ else none

/-- A log on it that is due with any record in the active buffer. -/
def stubbornStart : Moment :=
  ⟨ofSpans ["edits"] 10 [], (openAt stubbornDisk ["edits"] 10).1⟩

/-- The same log behind a wake-up that failed to write its one record. -/
def stubbornMoment : Moment :=
  stubbornStart.run [.append (.makeDirectory "/a"), .wake]

theorem openAt_stubbornDisk :
    openAt stubbornDisk ["edits"] 10 =
      (stubbornStart.disk, .ok stubbornStart.log) :=
  Prod.ext rfl (by rfl)

/-- Now that no step fails the segment can be written. -/
theorem writable_stubbornMoment :
    Writable stubbornMoment.disk.mended stubbornMoment.log.directory := by
  have directory : stubbornMoment.log.directory = ["edits"] := by decide +kernel
  have items : stubbornMoment.disk.mended.items =
      [(["edits"], .directory)] := by decide +kernel
  have stands : stubbornMoment.disk.mended.Stands ["edits"] := by
    unfold Disk.Stands
    decide +kernel
  rw [directory]
  apply writable_of_stands (Disk.reliable_mended _) stands (by decide)
  intro name
  have inside : Location.isLandmark (["edits"] ++ [name]) = false := by
    simp [Location.isLandmark, Location.systemRoot]
  have missing :
      List.lookup (["edits"] ++ [name]) [(["edits"], Disk.Item.directory)] =
        none := by
    rw [List.lookup_cons]
    simp
  rw [Disk.item?, inside, items, missing]
  simp

/-- A record behind the sealed one is enough. -/
theorem run_retries_stubborn :
    let moment := stubbornStart.run
      [.append (.makeDirectory "/a"), .wake, .append (.createFile "/b")]
    moment.log.sealing = [⟨1, .makeDirectory "/a"⟩] ∧
      moment.log.shouldRotate = true ∧
      Retries moment.log stubbornMoment.disk.mended :=
  ⟨by decide +kernel, by decide +kernel,
    run_retries openAt_stubbornDisk (by decide +kernel) writable_stubbornMoment⟩

/-- Without one the sealed record is in no segment, however often the flusher
wakes up where it could write it. -/
theorem flusherTicks_strand :
    openAt stubbornDisk ["edits"] 10 =
      (stubbornStart.disk, .ok stubbornStart.log) ∧
      Writable stubbornMoment.disk.mended stubbornMoment.log.directory ∧
      ∀ count,
        (stubbornMoment.log.flusherTicks stubbornMoment.disk.mended
          count).2.sealing =
            [⟨1, .makeDirectory "/a"⟩] ∧
          (stubbornMoment.log.flusherTicks stubbornMoment.disk.mended
            count).2.spans = [] ∧
          (stubbornMoment.log.flusherTicks stubbornMoment.disk.mended
            count).1.names ["edits"] =
            .ok [] := by
  refine ⟨openAt_stubbornDisk, writable_stubbornMoment, fun count => ?_⟩
  have early : stubbornMoment.log.shouldRotate = false := by decide +kernel
  rw [flusherTicks_of_not_due early]
  decide +kernel

end Log
end NameService
