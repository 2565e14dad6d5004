import NameService.Proofs.Catalog.Reopening
import NameService.Proofs.Log.Fetching
import NameService.Proofs.Primary.Course

/-!
# A Primary in service

Anything may happen to a Primary: mutations, writings of its log, fetches,
images and reports from whomever, closes and restarts, while any step of the
disk fails. Its log always lists segments of consecutive records, and behind
both the checkpoint id and the transaction id that it was started with it lists
all of them.
-/

namespace NameService

/-! ## Supplies -/

namespace Fetcher

/-- A fetcher has known records to answer from: all that are in the segments and
the buffers of a log, and all that it caches. -/
structure Supplied
    (fetcher : Fetcher)
    (log : Log)
    (disk : Disk)
    (known : List Record) :
    Prop where
  shelved : ∃ chapters, log.Shelved disk chapters ∧
    chapters.flatMap Log.Chapter.records ++ log.buffered ⊆ known
  words : ∀ record ∈ known, record.txid ≤ Word.max
  caches : fetcher.Caches known
  room : 0 < fetcher.batchSize

variable {fetcher : Fetcher} {log : Log} {disk : Disk} {known : List Record}

/-- A fetcher that is supplied answers every fetch, and stays supplied. -/
theorem Supplied.fetch
    (supplied : fetcher.Supplied log disk known)
    (after : Nat) :
    (fetcher.fetch disk log after).1.Supplied log disk known ∧
      ∃ batch, (fetcher.fetch disk log after).2 = .ok batch ∧
        fetcher.Answers ⟨log, disk⟩ known after batch := by
  obtain ⟨chapters, shelved, whole⟩ := supplied.shelved
  obtain ⟨batch, answer, answers, caches, sameSize⟩ :=
    answered_fetch shelved whole supplied.words supplied.caches supplied.room
      after
  exact ⟨⟨supplied.shelved, supplied.words, caches, sameSize ▸ supplied.room⟩,
    batch, answer, answers⟩

end Fetcher

namespace Primary

/-- What happens to a Primary in service. Failures are those of the steps of the
disk that it takes. -/
inductive Service.Event
  /-- A client asks for a mutation. -/
  | mutate (operation : Operation)
  /-- The log is written, in part or as a whole. -/
  | write (writing : Log.Writing) (failures : Nat → Option Disk.Failure)
  /-- A stream arrives at the image channel. -/
  | upload (stream : Bytes) (failures : Nat → Option Disk.Failure)
  /-- A checkpoint is reported. -/
  | report (txid : Nat) (failures : Nat → Option Disk.Failure)
  /-- The records behind a transaction id are fetched. -/
  | fetch (after : Nat)
  /-- The members of the fleet change. -/
  | attend (fleet : Fleet)
  /-- The process is closed. -/
  | close (failures : Nat → Option Disk.Failure)
  /-- The process is dropped, and a new one is started. -/
  | restart

/-- A Primary in service, on its disk. -/
structure Service where
  disk : Disk
  primary : Primary
  /-- The transaction id that the process was started with. -/
  openedTxid : Nat

namespace Service

/-- Start a new process. -/
def restart (service : Service) : Except ServiceError Service :=
  match openAt service.disk service.primary.settings with
  | (_, .error cause) => .error cause
  | (disk, .ok primary) => .ok ⟨disk, primary, primary.catalog.appliedTxid⟩

/-- Write the log on a disk with failures. -/
def write
    (service : Service)
    (writing : Log.Writing)
    (failures : Nat → Option Disk.Failure) : Service :=
  let outcome := service.primary.catalog.withLog
    (service.primary.catalog.log.write (service.disk.failing failures) writing)
  { service with
    disk := outcome.disk.mended,
    primary := { service.primary with catalog := outcome.state } }

/-- Receive a stream on a disk with failures. -/
def upload
    (service : Service)
    (stream : Bytes)
    (failures : Nat → Option Disk.Failure) : Service :=
  let sent :=
    Remote.sendImage stream (service.disk.failing failures) service.primary
  { service with disk := sent.disk.mended }

/-- Receive a report on a disk with failures. -/
def report
    (service : Service)
    (txid : Nat)
    (failures : Nat → Option Disk.Failure) : Service :=
  let reported :=
    service.primary.updateCheckpoint (service.disk.failing failures) txid
  { service with disk := reported.disk.mended, primary := reported.state }

/-- Close the process on a disk with failures. -/
def close (service : Service) (failures : Nat → Option Disk.Failure) :
    Service :=
  let closed := service.primary.close (service.disk.failing failures)
  { service with disk := closed.disk.mended, primary := closed.state }

/-- What a service is after one more event. A mutation is only carried out while
there is a next transaction id. -/
def step (service : Service) : Event → Except ServiceError Service
  | .mutate operation =>
      if service.primary.catalog.appliedTxid < Word.max then
        .ok { service with primary := (service.primary.mutate operation).1 }
      else .ok service
  | .write writing failures => .ok (service.write writing failures)
  | .upload stream failures => .ok (service.upload stream failures)
  | .report txid failures => .ok (service.report txid failures)
  | .fetch after =>
      .ok { service with
        primary := (service.primary.fetchEdits service.disk after).1 }
  | .attend fleet =>
      .ok { service with primary := { service.primary with fleet := fleet } }
  | .close failures => .ok (service.close failures)
  | .restart => service.restart

/-- What a service is after a run of events. -/
def run (service : Service) (events : List Event) :
    Except ServiceError Service :=
  events.foldlM step service

end Service

/-- Start a Primary, and let a run of events happen to it in service. -/
def serve (disk : Disk) (settings : Settings) (events : List Service.Event) :
    Except ServiceError Service :=
  match openAt disk settings with
  | (_, .error cause) => .error cause
  | (disk, .ok primary) =>
      Service.run ⟨disk, primary, primary.catalog.appliedTxid⟩ events

namespace Service

/-! ## The invariant -/

/-- The directory of the log is an archive, of which the log lists all segments
that are behind the checkpoint id and behind the transaction id of the start.
Only records that are accepted are in it, in the buffers or in the cache. -/
structure Sound
    (settings : Settings)
    (accepts : Record → Prop)
    (service : Service) : Prop where
  configured : service.primary.settings = settings
  directory : service.primary.catalog.log.directory = settings.editsLocation
  stands : service.disk.Stands settings.editsLocation
  archived : ∃ chapters,
    service.primary.catalog.log.Archived service.disk chapters ∧
    ∀ record ∈ chapters.flatMap Log.Chapter.records, accepts record
  buffered : ∀ record ∈ service.primary.catalog.log.buffered, accepts record
  word : service.primary.catalog.appliedTxid ≤ Word.max
  /-- The servers stop together with the catalog. -/
  stopped : service.primary.closed = !service.primary.catalog.running
  room : 0 < service.primary.fetcher.batchSize
  /-- What is cached was logged. -/
  caches : ∃ known, service.primary.fetcher.Caches known ∧
    ∀ record ∈ known, record.txid ≤ service.primary.catalog.appliedTxid ∧
    accepts record
  /-- No segment is given up that is not covered by a checkpoint. -/
  served : ∀ txid, service.primary.checkpointTxid < txid →
    service.openedTxid < txid →
    txid ≤ service.primary.catalog.log.flushedTxid →
    ∃ span ∈ service.primary.catalog.log.spans, span.covers txid = true

variable {settings : Settings} {accepts : Record → Prop} {service : Service}

/-- What a Primary is opened with over an archive. -/
theorem openAt_of_loaded
    {log : Log}
    {disk : Disk}
    {chapters : List Log.Chapter}
    (archived : log.Archived disk chapters)
    (directory : log.directory = settings.editsLocation)
    (stands : disk.Stands settings.editsLocation)
    (word : log.flushedTxid ≤ Word.max)
    {checkpointTxid : Nat}
    (loaded : settings.checkpointStore.load disk = .ok checkpointTxid)
    {image : Option Image}
    (isImage : Image.load disk settings.imageLocation = .ok image) :
    let memory : Memory :=
      ⟨image, checkpointTxid, chapters.flatMap Log.Chapter.records⟩
    openAt disk settings = (disk, .ok ⟨settings,
      ⟨memory.tree,
        ⟨settings.editsLocation, settings.segmentSize, [], memory.txid, [],
          chapters.map Log.Chapter.span, memory.txid⟩, true⟩,
      Fetcher.new settings.batchSize, .empty, checkpointTxid, false⟩) := by
  have recovered :=
    Catalog.recover_of_archived archived (directory ▸ stands) word
      (fun known isKnown =>
        (Image.rooted_of_load isImage known isKnown).isDirectory)
    settings.segmentSize checkpointTxid
  rw [directory] at recovered
  unfold openAt
  rw [Disk.makeDirectories_of_stands (stands_home stands)]
  simp only [loaded, isImage, recovered, Except.map]

/-- A Primary that is opened over an archive lists all segments of it and
buffers nothing. -/
theorem openAt_of_archived
    {log : Log}
    {disk : Disk}
    {chapters : List Log.Chapter}
    (archived : log.Archived disk chapters)
    (directory : log.directory = settings.editsLocation)
    (stands : disk.Stands settings.editsLocation)
    (word : log.flushedTxid ≤ Word.max)
    {after : Disk}
    {primary : Primary}
    (opened : openAt disk settings = (after, .ok primary)) :
    after = disk ∧ ∃ tree checkpointTxid txid, txid ≤ Word.max ∧
      Log.lastCovered (chapters.map Log.Chapter.span) ≤ txid ∧
      primary =
        ⟨settings,
          ⟨tree, ⟨settings.editsLocation, settings.segmentSize, [], txid, [],
            chapters.map Log.Chapter.span, txid⟩, true⟩,
            Fetcher.new settings.batchSize, .empty,
        checkpointTxid, false⟩ := by
  obtain ⟨made, image, catalog, isMade, loaded, isImage, -, -⟩ :=
    openAt_eq_ok opened
  rw [Disk.makeDirectories_of_stands (stands_home stands)] at isMade
  cases isMade
  rw [openAt_of_loaded archived directory stands word loaded isImage] at opened
  obtain ⟨sameDisk, isPrimary⟩ := Prod.mk.inj opened
  obtain ⟨covered, txidWord⟩ := archived.txid_bounds word
    ⟨image, primary.checkpointTxid, chapters.flatMap Log.Chapter.records⟩ rfl
    (Image.txid_le_of_load isImage)
  exact ⟨sameDisk.symm, _, _, _, txidWord, covered,
    (Except.ok.inj isPrimary).symm⟩

/-- A process that is started over an archive is sound. -/
theorem sound_of_openAt
    {log : Log}
    {disk : Disk}
    {chapters : List Log.Chapter}
    (archived : log.Archived disk chapters)
    (accepted : ∀ record ∈ chapters.flatMap Log.Chapter.records, accepts record)
    (directory : log.directory = settings.editsLocation)
    (stands : disk.Stands settings.editsLocation)
    (word : log.flushedTxid ≤ Word.max)
    {after : Disk}
    {primary : Primary}
    (opened : openAt disk settings = (after, .ok primary)) :
    Sound settings accepts ⟨after, primary, primary.catalog.appliedTxid⟩ := by
  obtain ⟨rfl, tree, checkpointTxid, txid, txidWord, covered, rfl⟩ :=
    openAt_of_archived archived directory stands word opened
  have reopened := archived.reopen settings.segmentSize covered
  rw [directory] at reopened
  refine ⟨rfl, rfl, stands, ⟨chapters, reopened, accepted⟩,
    fun _ present => (List.not_mem_nil present).elim, txidWord, rfl,
    Nat.le_max_right _ _, ⟨[], Fetcher.caches_new _ _, by simp⟩,
    fun other _ above below => ?_⟩
  exact absurd below (Nat.not_le.mpr above)

/-! ## Steps -/

/-- What is accepted may be more. -/
theorem Sound.imp
    (sound : service.Sound settings accepts)
    {more : Record → Prop}
    (within : ∀ record, accepts record → more record) :
    service.Sound settings more := by
  obtain ⟨chapters, archived, accepted⟩ := sound.archived
  obtain ⟨known, caches, bounded⟩ := sound.caches
  exact { sound with
    archived :=
      ⟨chapters, archived,
        fun record present => within record (accepted record present)⟩
    buffered :=
      fun record present => within record (sound.buffered record present)
    caches := ⟨known, caches, fun record present =>
      ⟨(bounded record present).1, within record (bounded record present).2⟩⟩ }

/-- A mutation is appended to the log, or it changes nothing. -/
theorem Sound.mutate
    (sound : service.Sound settings accepts)
    (operation : Operation)
    (next : service.primary.catalog.appliedTxid < Word.max)
    (accepted : accepts ⟨service.primary.catalog.appliedTxid + 1, operation⟩) :
    ({ service with primary := (service.primary.mutate operation).1 }).Sound
      settings accepts := by
  rw [mutate_eq]
  rcases Catalog.mutate_cases service.primary.catalog operation with
    same | ⟨tree, made, applied, logged⟩
  · rw [same]
    exact sound
  · obtain ⟨chapters, archived, known⟩ := sound.archived
    obtain ⟨cached, caches, bounded⟩ := sound.caches
    have appended := archived.shelved.append_record
      (show (⟨service.primary.catalog.log.lastTxid + 1, operation⟩ :
        Record).txid = _ from rfl)
    rw [logged, Log.append_of_lt next]
    refine { sound with
      archived := ⟨chapters, ?_, known⟩
      buffered := fun record present => ?_
      word := next
      caches := ⟨cached, caches, fun record present =>
        ⟨Nat.le_succ_of_le (bounded record present).1,
          (bounded record present).2⟩⟩ }
    · exact archived.rebuffer rfl rfl (Nat.le_refl _) appended.numbered
        appended.complete
    · simp only [Log.buffered, ← List.append_assoc] at present
      rcases List.mem_append.mp present with isOld | isNew
      · exact sound.buffered record isOld
      · obtain rfl := List.mem_singleton.mp isNew
        exact accepted

/-- A writing of the log puts what it takes from the buffers in segments. -/
theorem Sound.write
    (sound : service.Sound settings accepts)
    (writing : Log.Writing)
    (failures : Nat → Option Disk.Failure) :
    (service.write writing failures).Sound settings accepts := by
  obtain ⟨chapters, archived, accepted⟩ := sound.archived
  obtain ⟨added, flushes, spans, written⟩ :=
    (archived.failing failures).write sound.word writing
  have buffered := sound.buffered
  have caches := sound.caches
  have word := sound.word
  rw [flushes.buffered, List.forall_mem_append] at buffered
  rw [Catalog.appliedTxid, ← flushes.lastTxid] at caches word
  refine ⟨sound.configured, flushes.directory.trans sound.directory, ?_,
    ⟨_, written.failing _, ?_⟩, buffered.2, word, sound.stopped, sound.room,
    caches,
    fun txid above opened below => ?_⟩
  · exact sound.stands.frame fun place present =>
      Log.item?_write _ _ _ fun name =>
      sound.directory ▸ Disk.ne_of_mem_above_self present name
  · rw [List.flatMap_append]
    exact List.forall_mem_append.mpr ⟨accepted, buffered.1⟩
  · show ∃ span ∈
      (service.primary.catalog.log.write (service.disk.failing failures)
        writing).state.spans, _
    rw [spans]
    by_cases old : txid ≤ service.primary.catalog.log.flushedTxid
    · obtain ⟨span, present, covers⟩ := sound.served txid above opened old
      exact ⟨span, List.mem_append_left _ present, covers⟩
    · obtain ⟨span, present, covers⟩ :=
        flushes.tile.covers (Nat.lt_of_not_le old) below
      exact ⟨span, List.mem_append_right _ present, covers⟩

/-- An archive stays as it is when a file in the data directory is replaced, or
is not. -/
theorem archived_of_replace
    {log : Log}
    {disk after : Disk}
    {chapters : List Log.Chapter}
    (archived : log.Archived disk chapters)
    (directory : log.directory = settings.editsLocation)
    {scratch target : String}
    {content : Bytes}
    {answer : Except FileError Unit}
    (outcome : disk.performAll (Disk.replaceSteps (settings.home ++ [scratch])
      (settings.home ++ [target]) content) = (after, answer)) :
    log.Archived after chapters := by
  obtain ⟨names, segments⟩ :=
    segments_of_replace settings scratch target outcome
  rw [← directory] at names segments
  exact archived.on names segments

/-- A service goes on when a file in the data directory is replaced, or is
not. -/
theorem Sound.replace
    (sound : service.Sound settings accepts)
    {scratch target : String}
    (notScratch : Settings.editsName ≠ scratch)
    (notTarget : Settings.editsName ≠ target)
    {failures : Nat → Option Disk.Failure}
    {after : Disk}
    {content : Bytes}
    {answer : Except FileError Unit}
    (outcome : (service.disk.failing failures).performAll
      (Disk.replaceSteps (settings.home ++ [scratch])
        (settings.home ++ [target]) content) =
        (after, answer)) :
    ({ service with disk := after }).Sound settings accepts := by
  obtain ⟨chapters, archived, accepted⟩ := sound.archived
  have stands : (service.disk.failing failures).Stands settings.editsLocation :=
    sound.stands
  exact { sound with
    stands := stands_of_replace stands notScratch notTarget outcome
    archived :=
      ⟨chapters,
        archived_of_replace (archived.failing failures) sound.directory outcome,
      accepted⟩ }

/-- The failures of the disk make no difference to a service. -/
theorem Sound.failing
    (sound : service.Sound settings accepts)
    (failures : Nat → Option Disk.Failure) :
    ({ service with disk := service.disk.failing failures }).Sound settings
      accepts := by
  obtain ⟨chapters, archived, accepted⟩ := sound.archived
  exact { sound with
    stands := sound.stands,
    archived := ⟨chapters, archived.failing failures, accepted⟩ }

/-- A stream at the image channel leaves the log alone. -/
theorem Sound.upload
    (sound : service.Sound settings accepts)
    (stream : Bytes)
    (failures : Nat → Option Disk.Failure) :
    (service.upload stream failures).Sound settings accepts := by
  unfold Service.upload Remote.sendImage
  simp only
  rcases Upload.receive_leaves (service.disk.failing failures)
    service.primary.settings.imageLocation
    service.primary.settings.checkpointStore stream with
    same | ⟨content, image, answer, -, replaced⟩
  · rw [same]
    exact (sound.failing failures).failing _
  · generalize (Upload.receive _ _ _ stream).1 = after at replaced ⊢
    rw [sound.configured, Disk.replace, scratch_image] at replaced
    exact (sound.replace (by decide) (by decide) replaced).failing _

/-- A higher checkpoint id leaves more segments uncovered. -/
theorem Sound.raise
    (sound : service.Sound settings accepts)
    {txid : Nat}
    (later : service.primary.checkpointTxid ≤ txid) :
    ({ service with
      primary := { service.primary with checkpointTxid := txid } }).Sound
      settings accepts :=
  { sound with
    served := fun other above opened below =>
      sound.served other (Nat.lt_of_le_of_lt later above) opened below }

/-- A purge gives up only segments that the checkpoint covers. -/
theorem Sound.purge
    (sound : service.Sound settings accepts)
    {txid : Nat}
    (covered : txid ≤ service.primary.checkpointTxid) :
    ({ service with
      disk := (service.primary.catalog.log.purgeThrough service.disk txid).disk
      primary := { service.primary with
        catalog := { service.primary.catalog with
          log :=
            (service.primary.catalog.log.purgeThrough service.disk txid).state }
          } }).Sound
      settings accepts := by
  obtain ⟨chapters, archived, accepted⟩ := sound.archived
  have complete := archived.shelved.complete
  simp only [Log.flushedTxid_relisted, Log.lastTxid_relisted] at complete
  have word := sound.word
  rw [Catalog.appliedTxid] at word
  obtain ⟨gone, -, purged⟩ := archived.purgeThrough (by omega) txid
  obtain ⟨dropped, split, below, -⟩ := Log.purgeSpans_cases service.disk
    service.primary.catalog.log.directory txid service.primary.catalog.log.spans
  refine ⟨sound.configured, sound.directory, ?_,
    ⟨_, purged, fun record present => ?_⟩, sound.buffered, sound.word,
    sound.stopped, sound.room, sound.caches,
    fun other above opened flushed => ?_⟩
  · exact sound.stands.frame fun place present =>
      Log.item?_purgeThrough _ _ _ fun name =>
      sound.directory ▸ Disk.ne_of_mem_above_self present name
  · obtain ⟨chapter, isLeft, inChapter⟩ := List.mem_flatMap.mp present
    exact accepted record
      (List.mem_flatMap.mpr ⟨chapter, (List.mem_filter.mp isLeft).1, inChapter⟩)
  · obtain ⟨span, present, covers⟩ := sound.served other above opened flushed
    rw [split] at present
    rcases List.mem_append.mp present with inDropped | inLeft
    · have ends := below span inDropped
      have within : span.first ≤ other ∧ other ≤ span.last := by
        simpa [Span.covers] using covers
      have beyond : service.primary.checkpointTxid < other := above
      omega
    · exact ⟨span, inLeft, covers⟩

/-- A report is refused, or it raises the checkpoint id and gives up what that
covers. -/
theorem Sound.report
    (sound : service.Sound settings accepts)
    (txid : Nat)
    (failures : Nat → Option Disk.Failure) :
    (service.report txid failures).Sound settings accepts := by
  unfold Service.report
  simp only
  rcases service.primary.updateCheckpoint_cases (service.disk.failing failures)
    txid with
    ⟨disk, state⟩ | ⟨state, error, failed⟩ | ⟨above, -, saved, isSaved, inForce⟩
  · rw [disk, state]
    exact (sound.failing failures).failing _
  · rw [sound.configured, Checkpoint.Store.save, Disk.replace,
      scratch_checkpoint] at failed
    rw [state]
    exact (sound.replace (by decide) (by decide) failed).failing _
  · rw [sound.configured, Checkpoint.Store.save, Disk.replace,
      scratch_checkpoint] at isSaved
    have raised :=
      (sound.replace (by decide) (by decide) isSaved).raise (Nat.le_of_lt above)
    rcases inForce with ⟨disk, state⟩ | ⟨disk, state⟩
    · rw [disk, state]
      exact raised.failing _
    · rw [disk, state]
      exact (raised.purge (Nat.le_refl txid)).failing _

/-- Closing writes the log and saves the checkpoint id again. -/
theorem Sound.close
    (sound : service.Sound settings accepts)
    (failures : Nat → Option Disk.Failure) :
    (service.close failures).Sound settings accepts := by
  obtain ⟨disk, state, -⟩ :=
    service.primary.close_eq (service.disk.failing failures)
  have written := sound.write .forceSync failures
  cases saved : service.primary.settings.checkpointStore.save
      (service.primary.catalog.log.forceSync
        (service.disk.failing failures)).disk
      service.primary.checkpointTxid with
  | mk after answer =>
      rw [saved] at disk
      rw [sound.configured, Checkpoint.Store.save, Disk.replace,
        scratch_checkpoint] at saved
      have flushed :=
        (written.replace (by decide) (by decide) saved).failing
          after.mended.failures
      unfold Service.close
      simp only
      rw [disk, state]
      exact { flushed with stopped := rfl }

/-! ## Fetches -/

/-- What a fetcher in service can answer from is at hand, and no more. -/
theorem Sound.supplied (sound : service.Sound settings accepts) :
    ∃ known,
      service.primary.fetcher.Supplied service.primary.catalog.log service.disk
        known ∧
      ∀ record ∈ known, record.txid ≤ service.primary.catalog.appliedTxid ∧
        accepts record ∧
        service.primary.fetcher.AtHand
          ⟨service.primary.catalog.log, service.disk⟩ record := by
  obtain ⟨chapters, archived, accepted⟩ := sound.archived
  obtain ⟨kept, fewer, shelved⟩ := archived.listed
  obtain ⟨logged, caches, bounded⟩ := sound.caches
  have complete := shelved.complete
  have word := sound.word
  rw [Catalog.appliedTxid] at word bounded
  have inChapters : ∀ chapter ∈ kept, ∀ record ∈ chapter.records,
      record.txid ≤ service.primary.catalog.log.lastTxid := by
    intro chapter present record inChapter
    have limited :=
      shelved.ascending.limited chapter.span (List.mem_map_of_mem present)
    have bounds := chapter.numbered.bounds inChapter
    have ends := chapter.complete
    omega
  have atHand : ∀ record ∈ kept.flatMap Log.Chapter.records ++
        service.primary.catalog.log.buffered ++
        service.primary.fetcher.cache.toList.flatMap Prod.snd,
      record.txid ≤ service.primary.catalog.log.lastTxid ∧ accepts record ∧
        service.primary.fetcher.AtHand
          ⟨service.primary.catalog.log, service.disk⟩ record := by
    intro record present
    rcases List.mem_append.mp present with inLog | isCached
    · rcases List.mem_append.mp inLog with inSegments | inBuffers
      · obtain ⟨chapter, isKept, inChapter⟩ := List.mem_flatMap.mp inSegments
        have isRead := shelved.readSegment isKept fun other inChapter =>
          Nat.le_trans (inChapters chapter isKept other inChapter) word
        exact ⟨inChapters chapter isKept record inChapter,
          accepted record
            (List.mem_flatMap.mpr ⟨chapter, fewer.mem isKept, inChapter⟩),
          .inl ⟨chapter.span, shelved.listed ▸ List.mem_map_of_mem isKept, _,
            isRead, inChapter⟩⟩
      · have bounds := shelved.numbered.bounds inBuffers
        exact ⟨by omega, sound.buffered record inBuffers, .inr (.inl inBuffers)⟩
    · obtain ⟨cached, isCache, inCached⟩ := List.mem_flatMap.mp isCached
      rw [Option.mem_toList] at isCache
      obtain ⟨chapter, rfl, among⟩ := caches cached isCache
      obtain ⟨reached, isAccepted⟩ := bounded record (among inCached)
      exact ⟨reached, isAccepted, .inr (.inr ⟨_, isCache, inCached⟩)⟩
  refine ⟨_, ⟨⟨kept, shelved, List.subset_append_left _ _⟩,
    fun record present => Nat.le_trans (atHand record present).1 word, ?_,
    sound.room⟩, atHand⟩
  intro cached isCache
  obtain ⟨chapter, rfl, -⟩ := caches cached isCache
  refine ⟨chapter, rfl, fun record inChapter => List.mem_append_right _ ?_⟩
  exact List.mem_flatMap.mpr ⟨_, Option.mem_toList.mpr isCache, inChapter⟩

/-- A fetch changes nothing but the cache. -/
theorem Sound.fetch
    (sound : service.Sound settings accepts)
    (after : Nat) :
    ({ service with
      primary := (service.primary.fetchEdits service.disk after).1 }).Sound
      settings accepts := by
  obtain ⟨known, supplied, bounded⟩ := sound.supplied
  obtain ⟨still, -⟩ := supplied.fetch after
  unfold Primary.fetchEdits
  split
  · exact { sound with
      room := still.room
      caches := ⟨known, still.caches, fun record present =>
        ⟨(bounded record present).1, (bounded record present).2.1⟩⟩ }
  · exact sound

/-! ## Runs -/

/-- Whatever happens to a Primary in service, it stays sound, if what a mutation
logs is accepted. -/
theorem Sound.step
    (sound : service.Sound settings accepts)
    {event : Event}
    (accepted : ∀ operation, event = .mutate operation →
      accepts ⟨service.primary.catalog.appliedTxid + 1, operation⟩)
    {after : Service}
    (stepped : service.step event = .ok after) :
    after.Sound settings accepts := by
  cases event with
  | mutate operation =>
      simp only [Service.step] at stepped
      split at stepped
      · rename_i next
        obtain rfl := Except.ok.inj stepped
        exact sound.mutate operation next (accepted operation rfl)
      · obtain rfl := Except.ok.inj stepped
        exact sound
  | write writing failures =>
      obtain rfl := Except.ok.inj stepped
      exact sound.write writing failures
  | upload stream failures =>
      obtain rfl := Except.ok.inj stepped
      exact sound.upload stream failures
  | report txid failures =>
      obtain rfl := Except.ok.inj stepped
      exact sound.report txid failures
  | fetch txid =>
      obtain rfl := Except.ok.inj stepped
      exact sound.fetch txid
  | attend fleet =>
      obtain rfl := Except.ok.inj stepped
      exact { sound with }
  | close failures =>
      obtain rfl := Except.ok.inj stepped
      exact sound.close failures
  | restart =>
      simp only [Service.step, Service.restart] at stepped
      split at stepped
      · cases stepped
      · rename_i disk primary opened
        obtain rfl := Except.ok.inj stepped
        rw [sound.configured] at opened
        obtain ⟨chapters, archived, known⟩ := sound.archived
        have complete := archived.shelved.complete
        simp only [Log.flushedTxid_relisted, Log.lastTxid_relisted] at complete
        have word := sound.word
        rw [Catalog.appliedTxid] at word
        exact sound_of_openAt archived known sound.directory sound.stands
          (by omega) opened

/-- A Primary stays sound through every run of events. -/
theorem Sound.run
    (sound : service.Sound settings fun _ => True)
    {events : List Event}
    {after : Service}
    (isRun : service.run events = .ok after) :
    after.Sound settings fun _ => True :=
  foldlM_induction
    (fun _ _ _ _ before stepped => before.step (fun _ _ => trivial) stepped)
    sound isRun

/-- A Primary that was opened on an empty data directory is sound. -/
theorem sound_started
    {disk : Disk}
    {settings : Settings}
    (vacant : disk.Vacant settings.home)
    (accepts : Record → Prop) :
    Sound settings accepts
      ⟨started disk settings, recovered settings [] [] 0 0, 0⟩ := by
  have logged := logged_started vacant
  refine ⟨rfl, rfl, stands_started vacant.stands,
    ⟨[], logged.shelved.archived logged.filed,
      fun _ present => (List.not_mem_nil present).elim⟩,
    fun _ present => (List.not_mem_nil present).elim, Nat.zero_le _, rfl,
    Nat.le_max_right _ _, ⟨[], Fetcher.caches_new _ _, by simp⟩,
    fun txid above _ below => ?_⟩
  exact absurd below (Nat.not_le.mpr above)

end Service

/-- What is served on an empty data directory is a run behind the start
there. -/
theorem serve_of_vacant
    {disk : Disk}
    {settings : Settings}
    (reliable : disk.Reliable)
    (vacant : disk.Vacant settings.home)
    (events : List Service.Event) :
    serve disk settings events =
      Service.run ⟨started disk settings, recovered settings [] [] 0 0, 0⟩
        events := by
  rw [serve, openAt_of_vacant reliable vacant]
  rfl

/-- A Primary that is started on an empty data directory is sound in service. -/
theorem sound_of_serve
    {disk : Disk}
    {settings : Settings}
    (reliable : disk.Reliable)
    (vacant : disk.Vacant settings.home)
    {events : List Service.Event}
    {service : Service}
    (served : serve disk settings events = .ok service) :
    service.Sound settings fun _ => True := by
  rw [serve_of_vacant reliable vacant] at served
  exact (Service.sound_started vacant _).run served

end Primary
end NameService
