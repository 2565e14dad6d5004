import NameService.Primary
import NameService.Proofs.Catalog.Recovery
import NameService.Proofs.Catalog.Retelling
import NameService.Proofs.Upload.Storing

/-!
# What a Primary can be recovered from

The image, the checkpoint id and the segments of a data directory stand for the
history of a Primary up to the larger of the checkpoint id and the last flushed
transaction id. That is what a new Primary is recovered to.
-/

namespace NameService
namespace Primary

/-! ## The data directory -/

/-- The data directory stands, with a checkpoint id. -/
structure Housed
    (settings : Settings)
    (disk : Disk)
    (checkpointTxid : Nat) : Prop where
  /-- The directory of the log stands, and with it the data directory. -/
  stands : disk.Stands settings.editsLocation
  /-- Files can be added to the data directory. -/
  noEnd : ∀ name ∈ settings.home, '\x00' ∉ name.toList
  /-- The checkpoint id is kept. -/
  checkpoint : settings.checkpointStore.Keeps disk checkpointTxid
  /-- No directory is in the way of the scratch file of the checkpoint id. -/
  scratch : disk.item? (Disk.scratch settings.checkpointStore.location) ≠
    some .directory

/-- The data directory, but for the log, stands for a history: its image is of
the tree at the checkpoint id. -/
structure Stored
    (settings : Settings)
    (disk : Disk)
    (history : List Operation)
    (checkpointTxid : Nat) :
      Prop extends Housed settings disk checkpointTxid where
  /-- The image is that of the checkpoint id; at zero there may be none. -/
  image : disk.item? settings.imageLocation = none ∧ checkpointTxid = 0 ∨
    (Image.encode checkpointTxid
      (Tree.ofHistory history checkpointTxid)).length ≤ Word.max ∧
      disk.item? settings.imageLocation =
        some (.file
          (Image.encode checkpointTxid (Tree.ofHistory history checkpointTxid)))
  /-- The checkpoint is one of the history. -/
  bounded : checkpointTxid ≤ history.length

/-- The log stands for a history: its segments and buffers hold the records, and
behind the checkpoint none is left out. -/
structure Logged
    (log : Log)
    (disk : Disk)
    (history : List Operation)
    (checkpointTxid : Nat)
    (chapters : List Log.Chapter) : Prop where
  shelved : Log.Shelved log disk chapters
  filed : Log.Filed log disk
  /-- The segments hold records of the history. -/
  told : ∀ chapter ∈ chapters,
    chapter.records =
      Record.slice history (chapter.span.first - 1) chapter.span.last
  /-- The buffers hold the rest of the history. -/
  buffered : log.buffered = Record.slice history log.flushedTxid history.length
  /-- The segments leave nothing out behind the checkpoint. -/
  continues : Span.Continues checkpointTxid log.spans
  /-- The segments and the checkpoint reach as far as the log was flushed. -/
  reaches : Span.reach checkpointTxid log.spans =
    max checkpointTxid log.flushedTxid
  /-- The log ends where the history does. -/
  whole : log.lastTxid = history.length

variable {settings : Settings} {disk : Disk} {history : List Operation}
  {checkpointTxid : Nat} {log : Log} {chapters : List Log.Chapter}

/-- The directory of the log stands no sooner than the data directory. -/
theorem stands_home (stands : disk.Stands settings.editsLocation) :
    disk.Stands settings.home := by
  intro place present
  refine stands place (List.mem_append_left _ ?_)
  rw [Settings.editsLocation, Disk.above_append_singleton]
  exact present

theorem Housed.stands_home (housed : Housed settings disk checkpointTxid) :
    disk.Stands settings.home :=
  Primary.stands_home housed.stands

/-- The image of a checkpoint is loaded. -/
theorem Stored.load_image
    (stored : Stored settings disk history checkpointTxid)
    (word : history.length ≤ Word.max) :
    ∃ image, Image.load disk settings.imageLocation = .ok image ∧
      (∀ known ∈ image, known.root = Tree.ofHistory history known.txid) ∧
      (image.map Image.txid).getD 0 = checkpointTxid ∧
      Recovery.replayFloor (image.map Image.txid) checkpointTxid =
        checkpointTxid := by
  rcases stored.image with ⟨missing, rfl⟩ | ⟨fits, held⟩
  · have absent : disk.has settings.imageLocation = false := by
      simp [Disk.has, missing]
    refine ⟨none, ?_, fun known isKnown => (by cases isKnown), rfl, rfl⟩
    rw [Image.load, absent]
    rfl
  · have present : disk.has settings.imageLocation = true := by
      simp [Disk.has, held]
    have decoded := Image.decode_encode (Nat.le_trans stored.bounded word)
      (Tree.wellFormed_ofHistory history checkpointTxid)
      (Tree.kind_ofHistory _ _) (Tree.name_ofHistory _ _)
        (Nat.le_trans (Image.size_le_length_encode checkpointTxid _) fits)
    refine ⟨some ⟨checkpointTxid, Tree.ofHistory history checkpointTxid⟩, ?_,
      ?_, rfl, ?_⟩
    · simp [Image.load, present, Disk.read, held, decoded]
    · intro known isKnown
      obtain rfl := Option.some.inj isKnown
      rfl
    · simp [Recovery.replayFloor]

/-- The segments of a log hold a history. -/
theorem Logged.holds
    (logged : Logged log disk history checkpointTxid chapters)
    (word : history.length ≤ Word.max) :
    Recovery.Holds disk log.directory history log.spans := by
  intro span present
  rw [logged.shelved.listed] at present
  obtain ⟨chapter, isChapter, rfl⟩ := List.mem_map.mp present
  have limited := logged.shelved.ascending.limited chapter.span present
  have complete := logged.shelved.complete
  have whole := logged.whole
  refine ⟨by omega, by omega, ?_⟩
  rw [logged.shelved.stored chapter isChapter, logged.told chapter isChapter]

/-- The Primary that is recovered after so many mutations of a history. -/
def recovered
    (settings : Settings)
    (history : List Operation)
    (spans : List Span)
    (checkpointTxid txid : Nat) : Primary :=
  ⟨settings, ⟨Tree.ofHistory history txid,
      ⟨settings.editsLocation, settings.segmentSize, [], txid, [], spans, txid⟩,
      true⟩,
    Fetcher.new settings.batchSize, .empty, checkpointTxid, false⟩

/-- A Primary is recovered to the larger of the checkpoint id and the last
flushed transaction id. -/
theorem openAt_of_stored
    (stored : Stored settings disk history checkpointTxid)
    (logged : Logged log disk history checkpointTxid chapters)
    (directory : log.directory = settings.editsLocation)
    (word : history.length ≤ Word.max) :
    openAt disk settings =
      (disk, .ok (recovered settings history log.spans checkpointTxid
        (max checkpointTxid log.flushedTxid))) := by
  obtain ⟨image, loaded, described, base, floor⟩ := stored.load_image word
  have complete := logged.shelved.complete
  have whole := logged.whole
  have listed :=
    Segment.Listed.list_eq logged.filed (directory ▸ stored.stands.item?_eq)
      (logged.shelved.listed ▸ logged.shelved.ascending) (by omega)
  have holds := logged.holds word
  rw [directory] at listed holds
  have reaches :
      max ((image.map Image.txid).getD 0)
        (Span.reach checkpointTxid log.spans) =
      max checkpointTxid log.flushedTxid := by
    rw [base, logged.reaches]
    omega
  have catalog :=
    Catalog.recover_of_holds stored.stands listed holds settings.segmentSize
      checkpointTxid image described floor logged.continues reaches
  unfold openAt
  rw [Disk.makeDirectories_of_stands stored.stands_home]
  simp only [stored.checkpoint.load (Nat.le_trans stored.bounded word), loaded,
    catalog]
  rfl

/-- What stands for a history stands for as much of it as is recovered. -/
theorem Stored.take
    (stored : Stored settings disk history checkpointTxid)
    {count : Nat}
    (within : checkpointTxid ≤ count) :
    Stored settings disk (history.take count) checkpointTxid := by
  refine { stored with image := ?_, bounded := ?_ }
  · rw [Tree.ofHistory_take history within]
    exact stored.image
  · have bounded := stored.bounded
    rw [List.length_take]
    omega

/-- A log that is opened again stands for as much of the history as was
recovered. -/
theorem Logged.reopen
    (logged : Logged log disk history checkpointTxid chapters)
    (bounded : checkpointTxid ≤ history.length)
    {txid : Nat}
    (isTxid : max checkpointTxid log.flushedTxid = txid)
    (segmentSize : Nat) :
    Logged ⟨log.directory, segmentSize, [], txid, [], log.spans, txid⟩ disk
      (history.take txid) checkpointTxid chapters := by
  have complete := logged.shelved.complete
  have whole := logged.whole
  have length : (history.take txid).length = txid := by
    rw [List.length_take]
    omega
  refine ⟨⟨logged.shelved.listed, logged.shelved.stored,
    logged.shelved.ascending.sublist (.refl _)
      (show log.flushedTxid ≤ txid by omega), rfl, rfl⟩,
    logged.filed, ?_, ?_, logged.continues, ?_, length.symm⟩
  · intro chapter present
    have limited :=
      logged.shelved.ascending.limited chapter.span
        (List.mem_map_of_mem present)
    rw [Record.slice_take history _ (by omega)]
    exact logged.told chapter present
  · rw [length]
    simp [Log.buffered, Record.slice]
  · rw [logged.reaches]
    simp only
    omega

/-! ## One more mutation -/

theorem Stored.append
    (stored : Stored settings disk history checkpointTxid)
    (operation : Operation) :
    Stored settings disk (history ++ [operation]) checkpointTxid := by
  refine { stored with image := ?_, bounded := ?_ }
  · rw [Tree.ofHistory_append history [operation] stored.bounded]
    exact stored.image
  · have bounded := stored.bounded
    rw [List.length_append]
    omega

/-- A mutation that is logged goes on with the history. -/
theorem Logged.append
    (logged : Logged log disk history checkpointTxid chapters)
    (room : history.length < Word.max)
    (operation : Operation) :
    Logged (log.append operation).1 disk (history ++ [operation]) checkpointTxid
      chapters := by
  have whole := logged.whole
  have complete := logged.shelved.complete
  have next : Word.next log.lastTxid = log.lastTxid + 1 :=
    Word.next_of_lt (whole ▸ room)
  refine ⟨logged.shelved.append_record next, logged.filed, ?_, ?_,
    logged.continues, logged.reaches, ?_⟩
  · intro chapter present
    have limited :=
      logged.shelved.ascending.limited chapter.span
        (List.mem_map_of_mem present)
    rw [Record.slice_append history [operation] _ (by omega)]
    exact logged.told chapter present
  · have grown : (log.append operation).1.buffered =
        log.buffered ++ [⟨log.lastTxid + 1, operation⟩] := by
      simp [Log.append, Log.buffered, next]
    have last := Record.slice_append_slice (history ++ [operation])
      (show log.flushedTxid ≤ history.length by omega)
      (Nat.le_succ history.length) (by simp)
    rw [Record.slice_append history [operation] _ (Nat.le_refl _),
      Record.slice_last] at last
    rw [grown, logged.buffered, whole, last, List.length_append,
      List.length_singleton]
    rfl
  · rw [List.length_append, List.length_singleton, ← whole]
    exact Log.lastTxid_append (whole ▸ room) operation

/-! ## Flushing -/

/-- Chapters at the front of a history's records are parts of it, and what is
behind them is the rest. -/
theorem told_of_tile
    {start middle stop : Nat}
    {added : List Log.Chapter}
    {rest : List Record}
    (tile : Span.Tile start middle (added.map Log.Chapter.span))
    (within : middle ≤ stop)
    (bounded : stop ≤ history.length)
    (same : Record.slice history start stop =
      added.flatMap Log.Chapter.records ++ rest) :
    (∀ chapter ∈ added,
      chapter.records =
        Record.slice history (chapter.span.first - 1) chapter.span.last) ∧
      rest = Record.slice history middle stop := by
  induction added generalizing start with
  | nil =>
      obtain rfl : start = middle := tile
      exact ⟨fun _ present => (List.not_mem_nil present).elim, same.symm⟩
  | cons chapter added hypothesis =>
      obtain ⟨starts, ordered, behind⟩ := tile
      have further := behind.le
      have complete := chapter.complete
      have split :=
        Record.slice_append_slice history
          (show start ≤ chapter.span.last by omega)
          (show chapter.span.last ≤ stop by omega) (by omega)
      rw [← split, List.flatMap_cons, List.append_assoc] at same
      have length : (Record.slice history start chapter.span.last).length =
          chapter.records.length := by
        rw [Record.length_slice (by omega)]
        omega
      obtain ⟨first, others⟩ := List.append_inj same length
      obtain ⟨told, isRest⟩ := hypothesis behind others
      refine ⟨List.forall_mem_cons.mpr ⟨?_, told⟩, isRest⟩
      rw [← first, show chapter.span.first - 1 = start by omega]

/-- A log that flushes goes on standing for the history. -/
theorem Logged.kept
    (logged : Logged log disk history checkpointTxid chapters)
    {outcome : Outcome Log LogError (Option Span)}
    (kept : Log.Kept log chapters outcome)
    (filed : Log.Filed outcome.state outcome.disk) :
    ∃ chapters,
      Logged outcome.state outcome.disk history checkpointTxid chapters := by
  obtain ⟨added, flushes, shelved⟩ := kept
  have whole := logged.whole
  have complete := shelved.complete
  have sameLast := flushes.lastTxid
  have same := flushes.buffered
  rw [logged.buffered] at same
  obtain ⟨told, rest⟩ :=
    told_of_tile flushes.tile (by omega) (Nat.le_refl _) same
  obtain ⟨continues, reaches⟩ := flushes.tile.continues
  have spans : outcome.state.spans =
      log.spans ++ added.map Log.Chapter.span := by
    rw [shelved.listed, logged.shelved.listed, List.map_append]
  refine ⟨chapters ++ added, shelved, filed, ?_, rest, ?_, ?_,
    sameLast.trans whole⟩
  · exact List.forall_mem_append.mpr ⟨logged.told, told⟩
  · rw [spans, Span.continues_append, logged.reaches]
    exact ⟨logged.continues, continues.mono (Nat.le_max_right _ _)⟩
  · rw [spans, Span.reach_append, logged.reaches, Nat.max_comm, Span.reach_max,
      reaches, Nat.max_comm]

/-! ## Replacing files in the data directory -/

theorem scratch_append_singleton (directory : Location) (name : String) :
    Disk.scratch (directory ++ [name]) =
      directory ++ [Disk.nameWithExtension "tmp" name] := by
  simp [Disk.scratch, Disk.withExtension]

/-- The scratch file of the checkpoint id stands beside it. -/
theorem scratch_checkpoint (settings : Settings) :
    Disk.scratch settings.checkpointStore.location =
      settings.home ++ ["checkpoint-txid.tmp"] :=
  scratch_append_singleton settings.home Settings.checkpointTxidName

/-- The scratch file of the image stands beside it. -/
theorem scratch_image (settings : Settings) :
    Disk.scratch settings.imageLocation = settings.home ++ ["fsimage.tmp"] :=
  scratch_append_singleton settings.home Settings.imageName

/-- Files of different names in a directory stand at different locations. -/
theorem append_ne_append
    {name other : String}
    (distinct : name ≠ other)
    (directory : Location) :
    directory ++ [name] ≠ directory ++ [other] := fun same =>
  distinct (List.cons.inj (List.append_cancel_left same)).1

/-- A file in the data directory is none in the directory of the log. -/
theorem outside_editsLocation (settings : Settings) (name : String) :
    Log.Outside settings.editsLocation (settings.home ++ [name]) := by
  intro other same
  have lengths := congrArg List.length same
  simp [Settings.editsLocation] at lengths

/-- Replacing a file in the data directory leaves the segments alone. -/
theorem segments_of_replace
    (settings : Settings)
    (scratch target : String)
    {disk after : Disk}
    {content : Bytes}
    {answer : Except FileError Unit}
    (outcome : disk.performAll (Disk.replaceSteps (settings.home ++ [scratch])
      (settings.home ++ [target]) content) = (after, answer)) :
    Segment.namesIn after settings.editsLocation =
        Segment.namesIn disk settings.editsLocation ∧
      ∀ span, after.item? (Segment.location settings.editsLocation span) =
        disk.item? (Segment.location settings.editsLocation span) := by
  have hidden (name : String) :
      Segment.nameIn? settings.editsLocation (settings.home ++ [name]) =
        none := by
    simp [Segment.nameIn?, Settings.editsLocation]
  have allHidden : ∀ step ∈ Disk.replaceSteps (settings.home ++ [scratch])
      (settings.home ++ [target]) content, ∀ place ∈ step.touches,
      Segment.nameIn? settings.editsLocation place = none := by
    simp [Disk.replaceSteps, Disk.Step.touches, hidden]
  have names := Segment.namesIn_performAll_of_hidden disk allHidden
  rw [outcome] at names
  refine ⟨names, fun span => Disk.item?_of_replace outcome ?_ ?_⟩
  · exact (outside_editsLocation settings scratch _).symm
  · exact (outside_editsLocation settings target _).symm

/-- The log stands on any disk that has the same segments. -/
theorem Logged.on
    (logged : Logged log disk history checkpointTxid chapters)
    {other : Disk}
    (names : Segment.namesIn other log.directory =
      Segment.namesIn disk log.directory)
    (segments : ∀ span, other.item? (Segment.location log.directory span) =
      disk.item? (Segment.location log.directory span)) :
    Logged log other history checkpointTxid chapters := by
  refine { logged with
    shelved := { logged.shelved with stored := fun chapter present => ?_ }
    filed := ?_ }
  · exact (segments chapter.span).trans (logged.shelved.stored chapter present)
  · have filed := logged.filed
    rw [Log.Filed, Segment.Listed] at filed ⊢
    rwa [names]

/-- The log stands as it did when a file in the data directory is replaced, or
is not. -/
theorem Logged.replace
    (logged : Logged log disk history checkpointTxid chapters)
    (directory : log.directory = settings.editsLocation)
    (scratch target : String)
    {after : Disk}
    {content : Bytes}
    {answer : Except FileError Unit}
    (outcome : disk.performAll (Disk.replaceSteps (settings.home ++ [scratch])
      (settings.home ++ [target]) content) = (after, answer)) :
    Logged log after history checkpointTxid chapters := by
  obtain ⟨names, segments⟩ :=
    segments_of_replace settings scratch target outcome
  rw [← directory] at names segments
  exact logged.on names segments

/-- The log stands as it did when the image is replaced, or is not. -/
theorem Logged.replace_image
    (logged : Logged log disk history checkpointTxid chapters)
    (directory : log.directory = settings.editsLocation)
    {after : Disk}
    {content : Bytes}
    {answer : Except FileError Unit}
    (outcome : disk.replace settings.imageLocation content = (after, answer)) :
    Logged log after history checkpointTxid chapters := by
  rw [Disk.replace, scratch_image] at outcome
  exact logged.replace directory "fsimage.tmp" Settings.imageName outcome

/-- The log stands as it did when the checkpoint id is saved, or is not. -/
theorem Logged.save
    (logged : Logged log disk history checkpointTxid chapters)
    (directory : log.directory = settings.editsLocation)
    {after : Disk}
    {txid : Nat}
    {answer : Except FileError Unit}
    (outcome : settings.checkpointStore.save disk txid = (after, answer)) :
    Logged log after history checkpointTxid chapters := by
  rw [Checkpoint.Store.save, Disk.replace, scratch_checkpoint] at outcome
  exact logged.replace directory "checkpoint-txid.tmp"
    Settings.checkpointTxidName outcome

/-- The directories of a data directory stand when a file in it is replaced, or
is not. -/
theorem stands_of_replace
    (stands : disk.Stands settings.editsLocation)
    {after : Disk}
    {scratch target : String}
    (notScratch : Settings.editsName ≠ scratch)
    (notTarget : Settings.editsName ≠ target)
    {content : Bytes}
    {answer : Except FileError Unit}
    (outcome : disk.performAll (Disk.replaceSteps (settings.home ++ [scratch])
      (settings.home ++ [target]) content) = (after, answer)) :
    after.Stands settings.editsLocation := by
  refine stands.frame fun place present => ?_
  rw [Settings.editsLocation, Disk.above_append_singleton] at present
  rcases List.mem_append.mp present with higher | own
  · exact Disk.item?_of_replace outcome
      (Disk.ne_of_mem_above_self higher scratch)
      (Disk.ne_of_mem_above_self higher target)
  · obtain rfl := List.mem_singleton.mp own
    exact Disk.item?_of_replace outcome (append_ne_append notScratch _)
      (append_ne_append notTarget _)

/-- The data directory stands as it did, with its checkpoint id, when the image
is replaced, or is not. -/
theorem Housed.replace_image
    (housed : Housed settings disk checkpointTxid)
    {after : Disk}
    {content : Bytes}
    {answer : Except FileError Unit}
    (outcome : disk.replace settings.imageLocation content = (after, answer)) :
    Housed settings after checkpointTxid := by
  rw [Disk.replace, scratch_image] at outcome
  have frame (name : String) (notScratch : name ≠ "fsimage.tmp")
      (notImage : name ≠ "fsimage.json") :
      after.item? (settings.home ++ [name]) =
        disk.item? (settings.home ++ [name]) :=
    Disk.item?_of_replace outcome (append_ne_append notScratch _)
      (append_ne_append notImage _)
  refine ⟨stands_of_replace housed.stands (by decide) (by decide) outcome,
    housed.noEnd, ?_, ?_⟩
  · rw [Checkpoint.Store.Keeps,
      show after.item? settings.checkpointStore.location = _ from
      frame Settings.checkpointTxidName (by decide) (by decide)]
    exact housed.checkpoint
  · rw [scratch_checkpoint, frame _ (by decide) (by decide),
      ← scratch_checkpoint]
    exact housed.scratch

/-- The data directory stands with the checkpoint id that is saved. -/
theorem Housed.save
    (housed : Housed settings disk checkpointTxid)
    {after : Disk}
    {txid kept : Nat}
    {answer : Except FileError Unit}
    (outcome : settings.checkpointStore.save disk txid = (after, answer))
    (keeps : settings.checkpointStore.Keeps after kept) :
    Housed settings after kept ∧
      after.item? settings.imageLocation =
        disk.item? settings.imageLocation := by
  rw [Checkpoint.Store.save, Disk.replace] at outcome
  have notDirectory := Disk.not_directory_of_replace outcome housed.scratch
  rw [scratch_checkpoint] at outcome
  have stands := stands_of_replace housed.stands
    (show Settings.editsName ≠ "checkpoint-txid.tmp" by decide)
    (show Settings.editsName ≠ Settings.checkpointTxidName by decide) outcome
  have notScratch := append_ne_append
    (show Settings.imageName ≠ "checkpoint-txid.tmp" by decide) settings.home
  have notTarget := append_ne_append
    (show Settings.imageName ≠ Settings.checkpointTxidName by decide)
    settings.home
  exact ⟨⟨stands, housed.noEnd, keeps, notDirectory⟩,
    Disk.item?_of_replace outcome notScratch notTarget⟩

/-- A checkpoint id is saved, if no step of the disk fails. -/
theorem Housed.save_succeeds
    (housed : Housed settings disk checkpointTxid)
    (reliable : disk.Reliable)
    (txid : Nat) :
    ∃ after, settings.checkpointStore.save disk txid = (after, .ok ()) := by
  have scratchFree := housed.scratch
  rw [scratch_checkpoint] at scratchFree
  obtain ⟨after, done⟩ :=
    Disk.replace_of_stands reliable housed.stands_home housed.noEnd
      (show "checkpoint-txid.tmp" ≠ Settings.checkpointTxidName by decide)
      ⟨by decide, by decide⟩
    ⟨by decide, by decide⟩ scratchFree housed.checkpoint.notDirectory
    (Text.utf8 (Text.decimal txid))
  refine ⟨after, ?_⟩
  rw [Checkpoint.Store.save, Disk.replace, scratch_checkpoint]
  exact done

/-- The image is not its own scratch file. -/
theorem image_ne_scratch (settings : Settings) :
    settings.imageLocation ≠ Disk.scratch settings.imageLocation := by
  rw [scratch_image]
  exact append_ne_append (show Settings.imageName ≠ "fsimage.tmp" by decide)
    settings.home

/-- The file of the checkpoint id is not its own scratch file. -/
theorem checkpoint_ne_scratch (settings : Settings) :
    settings.checkpointStore.location ≠
      Disk.scratch settings.checkpointStore.location := by
  rw [scratch_checkpoint]
  exact append_ne_append
    (show Settings.checkpointTxidName ≠ "checkpoint-txid.tmp" by decide)
    settings.home

/-- Saving a checkpoint id does not touch the image. -/
theorem item?_image_of_save
    {after : Disk}
    {txid : Nat}
    {answer : Except FileError Unit}
    (outcome : settings.checkpointStore.save disk txid = (after, answer)) :
    after.item? settings.imageLocation = disk.item? settings.imageLocation := by
  refine Disk.item?_of_replace outcome ?_
    (append_ne_append (by decide) settings.home)
  rw [scratch_checkpoint]
  exact append_ne_append (by decide) settings.home

/-- Replacing the image does not touch the checkpoint id. -/
theorem item?_checkpoint_of_replace
    {after : Disk}
    {content : Bytes}
    {answer : Except FileError Unit}
    (outcome : disk.replace settings.imageLocation content = (after, answer)) :
    after.item? settings.checkpointStore.location =
      disk.item? settings.checkpointStore.location := by
  refine Disk.item?_of_replace outcome ?_
    (append_ne_append (by decide) settings.home)
  rw [scratch_image]
  exact append_ne_append (by decide) settings.home

/-- The data directory stands for the history as it did when the image could not
be replaced. -/
theorem Stored.replace_image_error
    (stored : Stored settings disk history checkpointTxid)
    {after : Disk}
    {content : Bytes}
    {error : FileError}
    (failed : disk.replace settings.imageLocation content =
      (after, .error error)) :
    Stored settings after history checkpointTxid := by
  refine ⟨stored.toHoused.replace_image failed, ?_, stored.bounded⟩
  rw [Disk.item?_of_replace_error failed (image_ne_scratch settings)]
  exact stored.image

/-- Saving the checkpoint id again leaves the data directory as it stands,
whether it succeeds or not. -/
theorem Stored.save_again
    (stored : Stored settings disk history checkpointTxid)
    {after : Disk}
    {answer : Except FileError Unit}
    (outcome : settings.checkpointStore.save disk checkpointTxid =
      (after, answer)) :
    Stored settings after history checkpointTxid := by
  have keeps := stored.checkpoint.save (checkpoint_ne_scratch settings)
  rw [outcome] at keeps
  obtain ⟨housed, sameImage⟩ := stored.toHoused.save outcome keeps
  refine ⟨housed, ?_, stored.bounded⟩
  rw [sameImage]
  exact stored.image

/-- A file in the data directory is as it was when only the log's directory was
touched. -/
theorem item?_home_of_frame
    {after : Disk}
    (frame : ∀ place, Log.Outside settings.editsLocation place →
      after.item? place = disk.item? place)
    (name : String) :
    after.item? (settings.home ++ [name]) =
      disk.item? (settings.home ++ [name]) :=
  frame _ (outside_editsLocation settings name)

/-- The data directory stands as it did, with its checkpoint id, when only the
log's directory was touched. -/
theorem Housed.frame
    (housed : Housed settings disk checkpointTxid)
    {after : Disk}
    (frame : ∀ place, Log.Outside settings.editsLocation place →
      after.item? place = disk.item? place) :
    Housed settings after checkpointTxid := by
  refine ⟨housed.stands.frame fun place present => frame place fun name =>
    Disk.ne_of_mem_above_self present name, housed.noEnd, ?_, ?_⟩
  · rw [Checkpoint.Store.Keeps,
      show after.item? settings.checkpointStore.location = _ from
      item?_home_of_frame frame Settings.checkpointTxidName]
    exact housed.checkpoint
  · rw [scratch_checkpoint, item?_home_of_frame frame, ← scratch_checkpoint]
    exact housed.scratch

/-- The data directory stands for the history as it did when only the log's
directory was touched. -/
theorem Stored.frame
    (stored : Stored settings disk history checkpointTxid)
    {after : Disk}
    (frame : ∀ place, Log.Outside settings.editsLocation place →
      after.item? place = disk.item? place) :
    Stored settings after history checkpointTxid := by
  refine ⟨stored.toHoused.frame frame, ?_, stored.bounded⟩
  rw [show after.item? settings.imageLocation = _ from
    item?_home_of_frame frame Settings.imageName]
  exact stored.image

/-! ## Disks with failures -/

/-- The failures of a disk make no difference to what stands on it. -/
theorem Housed.failing
    (housed : Housed settings disk checkpointTxid)
    (failures : Nat → Option Disk.Failure) :
    Housed settings (disk.failing failures) checkpointTxid :=
  ⟨housed.stands, housed.noEnd, housed.checkpoint, housed.scratch⟩

theorem Stored.failing
    (stored : Stored settings disk history checkpointTxid)
    (failures : Nat → Option Disk.Failure) :
    Stored settings (disk.failing failures) history checkpointTxid :=
  ⟨stored.toHoused.failing failures, stored.image, stored.bounded⟩

theorem Logged.failing
    (logged : Logged log disk history checkpointTxid chapters)
    (failures : Nat → Option Disk.Failure) :
    Logged log (disk.failing failures) history checkpointTxid chapters :=
  logged.on rfl fun _ => rfl

/-! ## Checkpoints -/

/-- Spans that end at or below a transaction id reach no further. -/
theorem reach_of_le
    {reached : Nat}
    {spans : List Span}
    (below : ∀ span ∈ spans, span.last ≤ reached) :
    Span.reach reached spans = reached := by
  induction spans with
  | nil => rfl
  | cons span rest hypothesis =>
      obtain ⟨first, others⟩ := List.forall_mem_cons.mp below
      rw [Span.reach, Nat.max_eq_left first]
      exact hypothesis others

/-- A log stands for its history behind any later checkpoint. -/
theorem Logged.raise
    (logged : Logged log disk history checkpointTxid chapters)
    {txid : Nat}
    (later : checkpointTxid ≤ txid) :
    Logged log disk history txid chapters := by
  refine { logged with continues := logged.continues.mono later, reaches := ?_ }
  have reached := Span.reach_max checkpointTxid txid log.spans
  rw [Nat.max_eq_right later, logged.reaches] at reached
  rw [reached]
  omega

/-- Segments up to the checkpoint may go. -/
theorem Logged.purgeThrough
    (logged : Logged log disk history checkpointTxid chapters)
    (reliable : disk.Reliable)
    (word : history.length ≤ Word.max) :
    ∃ kept, Logged (log.purgeThrough disk checkpointTxid).state
      (log.purgeThrough disk checkpointTxid).disk history checkpointTxid
      kept := by
  have complete := logged.shelved.complete
  have whole := logged.whole
  have filed :=
    logged.filed.purgeThrough logged.shelved reliable.honest (by omega)
      checkpointTxid
  obtain ⟨dropped, kept, isSplit, below, state, shelved⟩ :=
    logged.shelved.purgeThrough checkpointTxid
  have spans : log.spans =
      dropped.map Log.Chapter.span ++ kept.map Log.Chapter.span := by
    rw [logged.shelved.listed, isSplit, List.map_append]
  have short : Span.reach checkpointTxid (dropped.map Log.Chapter.span) =
      checkpointTxid :=
    reach_of_le fun span present => by
      obtain ⟨chapter, isDropped, rfl⟩ := List.mem_map.mp present
      exact below chapter isDropped
  have continues := logged.continues
  have reaches := logged.reaches
  rw [spans, Span.continues_append, short] at continues
  rw [spans, Span.reach_append, short] at reaches
  rw [state] at shelved filed ⊢
  exact ⟨kept, shelved, filed,
    fun chapter present =>
      logged.told chapter (isSplit ▸ List.mem_append_right _ present),
    logged.buffered, continues.2, reaches, whole⟩

end Primary
end NameService
