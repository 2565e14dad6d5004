import NameService.Proofs.Backup.Naming
import NameService.Proofs.Catalog.Delivery
import NameService.Proofs.Checkpoint.Info
import NameService.Proofs.Log.Archive
import NameService.Proofs.Primary.Standing

/-!
# What a Backup can be recovered from

The persisted checkpoint, its image and the segments of a data directory stand
for a history up to the larger of the checkpoint and the last flushed
transaction id. That is what a Backup is recovered to, whatever other images and
scratch files lie about.
-/

namespace NameService

namespace Backup

/-- A checkpoint of a Backup can be written and read back. -/
theorem legible_info
    {now txid : Nat}
    (nowWord : now ≤ Word.max)
    (txidWord : txid ≤ Word.max) :
    Checkpoint.Info.Legible ⟨now, txid, Settings.backupImageName txid⟩ := by
  refine ⟨nowWord, txidWord, fun empty => ?_, fun c present => ?_⟩
  · have last := Settings.getLast?_backupImageName txid
    simp [empty] at last
  · rcases Settings.mem_backupImageName present with digit | other
    · exact Text.isBlank_of_isDigit digit
    · have solid : ("fsimage-.json".toList.all fun c => !Text.isBlank c) =
          true := by decide
      simpa using List.all_eq_true.mp solid c other

/-! ## Changes in the data directory -/

/-- Only files of some names in the data directory were touched. -/
structure Touches
    (settings : Settings)
    (names : List String)
    (disk after : Disk) : Prop where
  frame : ∀ place, (∀ name ∈ names, place ≠ settings.home ++ [name]) →
    after.item? place = disk.item? place
  segments : Segment.namesIn after settings.editsLocation =
    Segment.namesIn disk settings.editsLocation
  retains : disk.Retains after

variable {settings : Settings} {names : List String} {disk after : Disk}

/-- Steps touch what each of them touches. -/
theorem touches_performAll
    (disk : Disk)
    {steps : List Disk.Step}
    (within : ∀ step ∈ steps, ∀ place ∈ step.touches,
      ∃ name ∈ names, place = settings.home ++ [name]) :
    Touches settings names disk (disk.performAll steps).1 := by
  refine ⟨
    fun place other => disk.item?_performAll fun step isStep touched => ?_,
    Segment.namesIn_performAll_of_hidden disk fun step isStep place touched =>
      ?_,
    disk.retains_performAll steps⟩
  · obtain ⟨name, isName, same⟩ := within step isStep place touched
    exact other name isName same
  · obtain ⟨name, -, rfl⟩ := within step isStep place touched
    simp [Segment.nameIn?, Settings.editsLocation]

/-- A file that is replaced is touched, and its scratch file. -/
theorem touches_replace
    {name : String}
    {content : Bytes}
    {answer : Except FileError Unit}
    (outcome : disk.replace (settings.home ++ [name]) content =
      (after, answer)) :
    Touches settings [name, Disk.nameWithExtension "tmp" name] disk after := by
  have touches : Touches settings [name, Disk.nameWithExtension "tmp" name] disk
      (disk.performAll
        (Disk.replaceSteps
          (settings.home ++ [Disk.nameWithExtension "tmp" name])
          (settings.home ++ [name]) content)).1 :=
    touches_performAll disk (by simp [Disk.replaceSteps, Disk.Step.touches])
  rw [Disk.replace, Primary.scratch_append_singleton] at outcome
  rwa [outcome] at touches

/-- A file that is removed is touched. -/
theorem touches_remove (disk : Disk) (name : String) :
    Touches settings [name] disk
      (disk.perform (.remove (settings.home ++ [name]))).1 := by
  have touches : Touches settings [name] disk
      (disk.performAll [.remove (settings.home ++ [name])]).1 :=
    touches_performAll disk (by simp [Disk.Step.touches])
  rw [Disk.performAll] at touches
  split at touches <;> rename_i outcome <;> rw [outcome]
  · exact touches
  · exact touches

/-- What is not touched is as it was. -/
theorem Touches.item?_eq
    (touches : Touches settings names disk after)
    {name : String}
    (other : name ∉ names) :
    after.item? (settings.home ++ [name]) =
      disk.item? (settings.home ++ [name]) :=
  touches.frame _ fun _ isTouched =>
    Primary.append_ne_append (ne_of_mem_of_not_mem isTouched other).symm
      settings.home

/-! ## The data directory -/

/-- The image of a transaction id of a history is in the data directory. -/
def Holds
    (settings : Settings)
    (disk : Disk)
    (history : List Operation)
    (txid : Nat) : Prop :=
  disk.item? (settings.backupImageLocation txid) =
    some (.file (Image.encode txid (Tree.ofHistory history txid)))

/-- An image is not among the files that are touched when a file of another name
is replaced. -/
theorem backupImageName_not_mem
    {txid : Nat}
    {name : String}
    (other : Settings.backupImageName txid ≠ name) :
    Settings.backupImageName txid ∉
      [name, Disk.nameWithExtension "tmp" name] := by
  have notScratch : Settings.backupImageName txid ≠
      Disk.nameWithExtension "tmp" name :=
    Disk.nameWithExtension_ne (by simp [Settings.getLast?_backupImageName])
  simp [other, notScratch]

/-- The file of the checkpoint is not among those that are touched when an image
is replaced. -/
theorem checkpointInfoName_not_mem (txid : Nat) :
    Settings.checkpointInfoName ∉ [Settings.backupImageName txid,
      Disk.nameWithExtension "tmp" (Settings.backupImageName txid)] := by
  have notImage := Settings.backupImageName_ne_checkpointInfoName txid
  have notScratch : Settings.checkpointInfoName ≠
      Disk.nameWithExtension "tmp" (Settings.backupImageName txid) :=
    Disk.nameWithExtension_ne (by decide)
  simp [notImage.symm, notScratch]

/-- The transaction id that a checkpoint covers, zero if there is none. -/
def coveredTxid (checkpoint : Option Checkpoint.Info) : Nat :=
  (checkpoint.map Checkpoint.Info.txid).getD 0

/-- The data directory, but for the log, stands for a checkpoint of a
history. -/
structure Stored
    (settings : Settings)
    (disk : Disk)
    (history : List Operation)
    (checkpoint : Option Checkpoint.Info) : Prop where
  stands : disk.Stands settings.editsLocation
  direct : settings.Direct disk Settings.imageNameLength
  kept : Checkpoint.Info.Keeps disk settings.checkpointInfoLocation checkpoint
  /-- The checkpoint names its image, which is there. -/
  image : ∀ info ∈ checkpoint,
    info.imageFile = Settings.backupImageName info.txid ∧
    Holds settings disk history info.txid

variable {history : List Operation} {checkpoint : Option Checkpoint.Info}

/-- The data directory stands for the checkpoint as long as neither it nor its
image is touched. -/
theorem Stored.touches
    (stored : Stored settings disk history checkpoint)
    (touches : Touches settings names disk after)
    (notInfo : Settings.checkpointInfoName ∉ names)
    (notImage : ∀ info ∈ checkpoint,
      Settings.backupImageName info.txid ∉ names) :
    Stored settings after history checkpoint := by
  refine ⟨stored.stands.retained touches.retains,
    stored.direct.retained touches.retains,
    stored.kept.frame (touches.item?_eq notInfo), fun info isInfo => ?_⟩
  obtain ⟨named, held⟩ := stored.image info isInfo
  exact ⟨named, (touches.item?_eq (notImage info isInfo)).trans held⟩

/-- The data directory stands for the checkpoint when only the directory of the
log was touched. -/
theorem Stored.frame
    (stored : Stored settings disk history checkpoint)
    (retains : disk.Retains after)
    (frame : ∀ place, Log.Outside settings.editsLocation place →
      after.item? place = disk.item? place) :
    Stored settings after history checkpoint := by
  refine ⟨stored.stands.retained retains, stored.direct.retained retains,
    stored.kept.frame (Primary.item?_home_of_frame frame _),
    fun info isInfo => ?_⟩
  obtain ⟨named, held⟩ := stored.image info isInfo
  exact ⟨named, (Primary.item?_home_of_frame frame _).trans held⟩

/-- The failures of the disk make no difference to what stands on it. -/
theorem Stored.failing
    (stored : Stored settings disk history checkpoint)
    (failures : Nat → Option Disk.Failure) :
    Stored settings (disk.failing failures) history checkpoint :=
  stored.frame (disk.retains_refl) fun _ _ => rfl

/-- The checkpoint names its image. -/
theorem Stored.named
    (stored : Stored settings disk history checkpoint)
    (word : coveredTxid checkpoint ≤ Word.max) :
    ∀ known ∈ checkpoint,
      known.imageFile = Settings.backupImageName known.txid ∧
        known.txid ≤ Word.max := by
  intro known isKnown
  obtain rfl : checkpoint = some known := isKnown
  exact ⟨(stored.image known rfl).1, word⟩

/-! ## Checkpoints -/

/-- The data directory stands for the checkpoint when another image than its own
is written. -/
theorem Stored.replace_image
    (stored : Stored settings disk history checkpoint)
    {txid : Nat}
    (other : checkpoint.map Checkpoint.Info.txid ≠ some txid)
    {content : Bytes}
    {answer : Except FileError Unit}
    (replaced : disk.replace (settings.backupImageLocation txid) content =
      (after, answer)) :
    Stored settings after history checkpoint := by
  refine stored.touches (touches_replace replaced)
    (checkpointInfoName_not_mem txid) fun info isInfo =>
      backupImageName_not_mem fun same => other ?_
  obtain rfl : checkpoint = some info := isInfo
  rw [Option.map_some, Settings.backupImageName_injective same]

/-- A checkpoint that is not saved leaves the file of the one before. -/
theorem item?_info_of_save_error
    {info : Checkpoint.Info}
    {error : FileError}
    (failed : info.save disk settings.checkpointInfoLocation =
      (after, .error error)) :
    after.item? settings.checkpointInfoLocation =
      disk.item? settings.checkpointInfoLocation := by
  refine Disk.item?_of_replace_error failed ?_
  rw [Settings.checkpointInfoLocation, Primary.scratch_append_singleton]
  exact Primary.append_ne_append (by decide) settings.home

/-- The data directory stands for the checkpoint that it had if another one is
not saved. -/
theorem Stored.save_error
    (stored : Stored settings disk history checkpoint)
    {info : Checkpoint.Info}
    {error : FileError}
    (failed : info.save disk settings.checkpointInfoLocation =
      (after, .error error)) :
    Stored settings after history checkpoint := by
  have touches : Touches settings _ disk after := touches_replace failed
  refine ⟨stored.stands.retained touches.retains,
    stored.direct.retained touches.retains,
    stored.kept.frame (item?_info_of_save_error failed),
    fun known isKnown => ?_⟩
  obtain ⟨named, held⟩ := stored.image known isKnown
  have apart :=
    backupImageName_not_mem
      (Settings.backupImageName_ne_checkpointInfoName known.txid)
  exact ⟨named, (touches.item?_eq apart).trans held⟩

/-- The data directory stands for a checkpoint that is saved once its image is
there. -/
theorem Stored.save
    (stored : Stored settings disk history checkpoint)
    {info : Checkpoint.Info}
    (legible : info.Legible)
    (named : info.imageFile = Settings.backupImageName info.txid)
    (held : Holds settings disk history info.txid)
    (saved : info.save disk settings.checkpointInfoLocation = (after, .ok ())) :
    Stored settings after history (some info) := by
  have touches : Touches settings _ disk after := touches_replace saved
  refine ⟨stored.stands.retained touches.retains,
    stored.direct.retained touches.retains,
    ⟨legible, Disk.item?_replaced saved⟩, fun known isKnown => ?_⟩
  obtain rfl := Option.some.inj isKnown
  have apart :=
    backupImageName_not_mem
      (Settings.backupImageName_ne_checkpointInfoName info.txid)
  exact ⟨named, (touches.item?_eq apart).trans held⟩

/-- Of two checkpoints the image of the earlier one is dropped, if it is another
image. -/
theorem touches_dropImage
    (direct : settings.Direct disk Settings.imageNameLength)
    {info : Checkpoint.Info}
    (earlier : ∀ known ∈ checkpoint,
      known.imageFile = Settings.backupImageName known.txid ∧
        known.txid ≤ Word.max)
    (named : info.imageFile = Settings.backupImageName info.txid) :
    ∃ names,
      Touches settings names disk
        (dropImage settings disk checkpoint info.imageFile) ∧
      Settings.checkpointInfoName ∉ names ∧
      Settings.backupImageName info.txid ∉ names := by
  have untouched : Touches settings [] disk disk :=
    ⟨fun _ _ => rfl, rfl, disk.retains_refl⟩
  cases checkpoint with
  | none => exact ⟨[], untouched, by simp, by simp⟩
  | some known =>
      obtain ⟨knownNamed, word⟩ := earlier known rfl
      rw [dropImage]
      split
      · exact ⟨[], untouched, by simp, by simp⟩
      · rename_i other
        rw [knownNamed, named] at other
        rw [knownNamed, direct.resolve_backupImageName word]
        refine ⟨[Settings.backupImageName known.txid], touches_remove disk _,
          ?_, ?_⟩
        · simp [(Settings.backupImageName_ne_checkpointInfoName
            known.txid).symm]
        · simp [Ne.symm other]

/-! ## The log -/

/-- The log stands for a history, once all segments of its directory are listed:
also those that it gave up while their files were left behind. -/
structure Logged
    (log : Log)
    (disk : Disk)
    (history : List Operation)
    (checkpointTxid : Nat)
    (chapters : List Log.Chapter) : Prop where
  whole : Primary.Logged (log.relisted (chapters.map Log.Chapter.span)) disk
    history checkpointTxid chapters
  among : log.spans.Sublist (chapters.map Log.Chapter.span)

variable {log : Log} {checkpointTxid : Nat} {chapters : List Log.Chapter}

/-- The directory of the log is an archive. -/
theorem Logged.archived
    (logged : Logged log disk history checkpointTxid chapters) :
    log.Archived disk chapters :=
  ⟨logged.whole.shelved, logged.whole.filed, logged.among⟩

/-- The log was flushed no further than the history goes. -/
theorem Logged.flushedTxid_le
    (logged : Logged log disk history checkpointTxid chapters) :
    log.flushedTxid ≤ history.length := by
  have complete := logged.whole.shelved.complete
  have whole := logged.whole.whole
  simp only [Log.flushedTxid_relisted, Log.lastTxid_relisted] at complete whole
  omega

/-- The log stands on any disk that has the same segments. -/
theorem Logged.on
    (logged : Logged log disk history checkpointTxid chapters)
    (names : Segment.namesIn after log.directory =
      Segment.namesIn disk log.directory)
    (segments : ∀ span, after.item? (Segment.location log.directory span) =
      disk.item? (Segment.location log.directory span)) :
    Logged log after history checkpointTxid chapters :=
  ⟨logged.whole.on names segments, logged.among⟩

/-- The log stands when files of the data directory were touched. -/
theorem Logged.touches
    (logged : Logged log disk history checkpointTxid chapters)
    (directory : log.directory = settings.editsLocation)
    (touches : Touches settings names disk after) :
    Logged log after history checkpointTxid chapters :=
  logged.on (directory ▸ touches.segments) fun _ =>
    touches.frame _ fun name _ =>
    directory ▸ (Primary.outside_editsLocation settings name _).symm

/-- A later checkpoint leaves less to the log. -/
theorem Logged.raise
    (logged : Logged log disk history checkpointTxid chapters)
    {txid : Nat}
    (later : checkpointTxid ≤ txid) :
    Logged log disk history txid chapters :=
  ⟨logged.whole.raise later, logged.among⟩

/-- A log that is appended to goes on with the history. -/
theorem Logged.append
    (logged : Logged log disk history checkpointTxid chapters)
    (room : history.length < Word.max)
    (operation : Operation) :
    Logged (log.append operation).1 disk (history ++ [operation]) checkpointTxid
      chapters :=
  ⟨logged.whole.append room operation, logged.among⟩

/-- A log that is written goes on standing for the history. -/
theorem Logged.write
    (logged : Logged log disk history checkpointTxid chapters)
    (word : history.length ≤ Word.max)
    (writing : Log.Writing) :
    (log.write disk writing).state.directory = log.directory ∧
      ∃ chapters,
        Logged (log.write disk writing).state (log.write disk writing).disk
          history checkpointTxid chapters := by
  obtain ⟨new, listed, same⟩ :=
    Log.oblivious_write writing log disk (chapters.map Log.Chapter.span)
  simp only at listed same
  have shelved := logged.whole.shelved
  have logWord := logged.whole.whole ▸ word
  have kept := shelved.write logWord writing
  have filed := logged.whole.filed.write shelved logWord writing
  rw [same] at kept filed
  obtain ⟨told, whole⟩ := logged.whole.kept kept filed
  obtain ⟨_, flushes, -⟩ := kept
  have spans : chapters.map Log.Chapter.span ++ new =
      told.map Log.Chapter.span :=
    whole.shelved.listed
  rw [spans] at whole
  refine ⟨flushes.directory, told, whole, ?_⟩
  rw [listed, ← spans]
  exact logged.among.append (.refl _)

/-- Spans that end at or below a transaction id may be left out behind it. -/
theorem continues_filter
    {reached : Nat}
    {spans : List Span}
    {keeps : Span → Bool}
    (below : ∀ span, keeps span = false → span.last ≤ reached)
    (continues : Span.Continues reached spans) :
    Span.Continues reached (spans.filter keeps) ∧
      Span.reach reached (spans.filter keeps) = Span.reach reached spans := by
  induction spans generalizing reached with
  | nil => exact ⟨trivial, rfl⟩
  | cons span rest hypothesis =>
      obtain ⟨positive, starts, behind⟩ := continues
      have further := hypothesis (fun other dropped =>
        Nat.le_trans (below other dropped) (Nat.le_max_left _ _)) behind
      cases kept : keeps span with
      | true =>
          rw [List.filter_cons_of_pos kept]
          exact ⟨⟨positive, starts, further.1⟩, further.2⟩
      | false =>
          -- What is left out ends behind nothing that was reached before it.
          rw [Nat.max_eq_left (below span kept)] at further
          rw [List.filter_cons_of_neg (by simp [kept]), Span.reach,
            Nat.max_eq_left (below span kept)]
          exact further

/-- The segments up to the checkpoint may go, whichever of them go. -/
theorem Logged.purgeThrough
    (logged : Logged log disk history checkpointTxid chapters)
    (word : history.length ≤ Word.max) :
    ∃ kept, Logged (log.purgeThrough disk checkpointTxid).state
      (log.purgeThrough disk checkpointTxid).disk history checkpointTxid
      kept := by
  obtain ⟨gone, below, archived⟩ := logged.archived.purgeThrough
    (Nat.le_trans logged.flushedTxid_le word) checkpointTxid
  have spans := Log.map_span_filter chapters gone
  have dropped : ∀ span, decide (span ∉ gone) = false →
      span.last ≤ checkpointTxid :=
    fun span isGone => below span (by simpa using isGone)
  obtain ⟨continues, reaches⟩ := continues_filter dropped logged.whole.continues
  refine ⟨_, ⟨archived.shelved, archived.filed, fun chapter present =>
    logged.whole.told chapter (List.mem_of_mem_filter present),
      logged.whole.buffered,
    ?_, ?_, logged.whole.whole⟩, archived.among⟩
  · simp only [Log.relisted, spans]
    exact continues
  · simp only [Log.relisted, spans]
    exact reaches.trans logged.whole.reaches

/-! ## Recovery -/

/-- A history whose transaction ids are words, and whose trees have as many
nodes at most. -/
structure Countable (history : List Operation) : Prop where
  txids : history.length ≤ Word.max
  nodes : ∀ count ≤ history.length,
    (Tree.ofHistory history count).size ≤ Word.max

/-- The image of a history that is in the data directory is loaded. -/
theorem Holds.load
    {txid : Nat}
    (holds : Holds settings disk history txid)
    (countable : Countable history)
    (bounded : txid ≤ history.length) :
    Image.load disk (settings.backupImageLocation txid) =
      .ok (some ⟨txid, Tree.ofHistory history txid⟩) := by
  have present : disk.has (settings.backupImageLocation txid) = true := by
    simp [Disk.has, show disk.item? _ = _ from holds]
  have read : disk.read (settings.backupImageLocation txid) =
      .ok (Image.encode txid (Tree.ofHistory history txid)) := by
    simp [Disk.read, show disk.item? _ = _ from holds]
  have decoded := Image.decode_encode (Nat.le_trans bounded countable.txids)
    (Tree.wellFormed_ofHistory history txid) (Tree.kind_ofHistory _ _)
    (Tree.name_ofHistory _ _) (countable.nodes txid bounded)
  rw [Image.load, if_pos present, read]
  simp only [decoded]

/-- The image of the checkpoint is loaded, and recovery starts behind it. -/
theorem Stored.loadImage
    (stored : Stored settings disk history checkpoint)
    (countable : Countable history)
    (bounded : coveredTxid checkpoint ≤ history.length) :
    ∃ image, loadImage settings disk checkpoint = .ok image ∧
      (∀ known ∈ image, known = ⟨coveredTxid checkpoint,
        Tree.ofHistory history (coveredTxid checkpoint)⟩) ∧
      (image.map Image.txid).getD 0 = coveredTxid checkpoint ∧
      Recovery.replayFloor (image.map Image.txid) (coveredTxid checkpoint) =
        coveredTxid checkpoint := by
  cases checkpoint with
  | none => exact ⟨none, rfl, fun _ isKnown => (by cases isKnown), rfl, rfl⟩
  | some info =>
      obtain ⟨named, held⟩ := stored.image info rfl
      have within : info.txid ≤ history.length := bounded
      refine ⟨some ⟨info.txid, Tree.ofHistory history info.txid⟩, ?_,
        fun known isKnown => (Option.some.inj isKnown).symm, rfl,
        Nat.min_self _⟩
      rw [Backup.loadImage, named,
        stored.direct.resolve_backupImageName
          (Nat.le_trans within countable.txids)]
      exact held.load countable within

/-- The catalog that is recovered after so many mutations of a history. -/
def recoveredCatalog
    (settings : Settings)
    (history : List Operation)
    (spans : List Span)
    (txid : Nat) : Catalog :=
  ⟨Tree.ofHistory history txid,
    ⟨settings.editsLocation, settings.segmentSize, [], txid, [], spans, txid⟩,
    true⟩

/-- From the image of a checkpoint, or from none at zero, a log is recovered to
the larger of the checkpoint and the last flushed transaction id. -/
theorem Logged.recover
    (logged : Logged log disk history checkpointTxid chapters)
    (directory : log.directory = settings.editsLocation)
    (stands : disk.Stands settings.editsLocation)
    (word : history.length ≤ Word.max)
    {image : Option Image}
    (described : ∀ known ∈ image,
      known = ⟨checkpointTxid, Tree.ofHistory history checkpointTxid⟩)
    (base : (image.map Image.txid).getD 0 = checkpointTxid)
    (floor : Recovery.replayFloor (image.map Image.txid) checkpointTxid =
      checkpointTxid) :
    Catalog.recover disk settings.editsLocation settings.segmentSize image
      checkpointTxid =
      (disk,
        .ok (recoveredCatalog settings history (chapters.map Log.Chapter.span)
          (max checkpointTxid log.flushedTxid))) := by
  have reached := logged.whole.reaches
  simp only [Log.relisted] at reached
  rw [← directory] at stands ⊢
  have listed := Segment.Listed.list_eq logged.whole.filed stands.item?_eq
    logged.whole.shelved.ascending (Nat.le_trans logged.flushedTxid_le word)
  have reaches : max ((image.map Image.txid).getD 0)
      (Span.reach checkpointTxid (chapters.map Log.Chapter.span)) =
      max checkpointTxid log.flushedTxid := by
    rw [base, reached]
    omega
  have recovered :=
    Catalog.recover_of_holds stands listed (logged.whole.holds word)
      settings.segmentSize checkpointTxid image
      (fun known isKnown => by rw [described known isKnown])
    floor logged.whole.continues reaches
  rw [recoveredCatalog, ← directory]
  exact recovered

variable {applied : Nat}

/-- A Backup is recovered to the larger of the checkpoint and the last flushed
transaction id. -/
theorem recover_of_stored
    (stored : Stored settings disk history checkpoint)
    (countable : Countable history)
    (bounded : applied ≤ history.length)
    (covered : coveredTxid checkpoint ≤ applied)
    (logged :
      Logged log disk (history.take applied) (coveredTxid checkpoint) chapters)
    (directory : log.directory = settings.editsLocation) :
    (new settings).recover disk =
      ⟨disk, { new settings with
        catalog :=
          some (recoveredCatalog settings history
            (chapters.map Log.Chapter.span)
            (max (coveredTxid checkpoint) log.flushedTxid))
        lastCheckpoint := checkpoint }, .ok ()⟩ := by
  obtain ⟨image, loaded, described, base, floor⟩ :=
    stored.loadImage countable (Nat.le_trans covered bounded)
  have flushed := logged.flushedTxid_le
  have length : (history.take applied).length = applied :=
    List.length_take_of_le bounded
  have word : (history.take applied).length ≤ Word.max := by
    rw [length]
    exact Nat.le_trans bounded countable.txids
  have taken : ∀ known ∈ image, known = ⟨coveredTxid checkpoint,
      Tree.ofHistory (history.take applied) (coveredTxid checkpoint)⟩ := by
    rw [Tree.ofHistory_take history covered]
    exact described
  have recovered := logged.recover directory stored.stands word taken base floor
  rw [length] at flushed
  rw [recoveredCatalog,
    Tree.ofHistory_take history
      (Nat.max_le.mpr ⟨covered, flushed⟩)] at recovered
  unfold recover rebuild
  rw [show (new settings).settings = settings from rfl,
    Disk.makeDirectories_of_stands (Primary.stands_home stored.stands)]
  simp only [stored.kept.load, loaded,
    show (checkpoint.map Checkpoint.Info.txid).getD 0 =
    coveredTxid checkpoint from rfl, recovered]
  rfl

end Backup
end NameService
