import NameService.Proofs.Image.Validity
import NameService.Proofs.Primary.Service

/-!
# Traffic that a data directory withstands

Whatever a Primary was sent, whatever it purged, and wherever it was cut off, a
Primary is opened on its data directory again. Each writer leaves only files
that the start can read, whatever the other files hold: an image is decoded
before it replaces another one, checkpoint ids are saved as words, and segments
hold records.
-/

namespace NameService

namespace Primary

/-! ## The files beside the log -/

/-- The start can read what stands beside the log: an image, or none, and the
checkpoint id. -/
structure Readable (settings : Settings) (disk : Disk) : Prop where
  image : disk.item? settings.imageLocation = none ∨ ∃ content image,
    disk.item? settings.imageLocation = some (.file content) ∧
      Image.decode content = .ok image
  checkpoint : ∃ txid, txid ≤ Word.max ∧
    settings.checkpointStore.Keeps disk txid

variable {settings : Settings} {disk : Disk}

/-- Only what stands at the image and at the checkpoint id is read. -/
theorem Readable.on
    (readable : Readable settings disk)
    {other : Disk}
    (image : other.item? settings.imageLocation =
      disk.item? settings.imageLocation)
    (checkpoint : other.item? settings.checkpointStore.location =
      disk.item? settings.checkpointStore.location) :
    Readable settings other := by
  refine ⟨?_, ?_⟩
  · rw [image]
    exact readable.image
  · obtain ⟨txid, word, keeps⟩ := readable.checkpoint
    exact ⟨txid, word, by rwa [Checkpoint.Store.Keeps, checkpoint]⟩

/-- The failures of a disk make no difference to what can be read. -/
theorem Readable.failing
    (readable : Readable settings disk)
    (failures : Nat → Option Disk.Failure) :
    Readable settings (disk.failing failures) :=
  readable.on rfl rfl

/-- What is done in the directory of the log leaves the files beside it. -/
theorem Readable.frame
    (readable : Readable settings disk)
    {after : Disk}
    (frame : ∀ place, Log.Outside settings.editsLocation place →
      after.item? place = disk.item? place) :
    Readable settings after :=
  readable.on (item?_home_of_frame frame _) (item?_home_of_frame frame _)

/-- A stream at the image channel leaves an image that can be read, if it leaves
any. -/
theorem Readable.receive
    (readable : Readable settings disk)
    (stream : Bytes) :
    Readable settings
      (Upload.receive disk settings.imageLocation settings.checkpointStore
        stream).1 := by
  rcases Upload.receive_leaves disk settings.imageLocation
    settings.checkpointStore stream with
    same | ⟨content, image, answer, decoded, replaced⟩
  · rw [same]
    exact readable
  · generalize (Upload.receive _ _ _ stream).1 = after at replaced ⊢
    have checkpoint := item?_checkpoint_of_replace replaced
    cases answer with
    | ok _ =>
        obtain ⟨txid, word, keeps⟩ := readable.checkpoint
        exact ⟨.inr ⟨content, image, Disk.item?_replaced replaced, decoded⟩,
          txid, word, by
          rwa [Checkpoint.Store.Keeps, checkpoint]⟩
    | error error =>
        exact readable.on
          (Disk.item?_of_replace_error replaced (image_ne_scratch settings))
          checkpoint

/-- A checkpoint id that is saved can be read if it is a word, and one that is
not leaves the old one. -/
theorem Readable.save
    (readable : Readable settings disk)
    {txid : Nat}
    {after : Disk}
    {answer : Except FileError Unit}
    (word : answer = .ok () → txid ≤ Word.max)
    (saved : settings.checkpointStore.save disk txid = (after, answer)) :
    Readable settings after := by
  have image := item?_image_of_save saved
  cases answer with
  | ok _ =>
      exact ⟨image ▸ readable.image, txid, word rfl,
        Checkpoint.Store.keeps_of_save saved⟩
  | error error =>
      exact readable.on image
        (Disk.item?_of_replace_error saved (checkpoint_ne_scratch settings))

/-- The image that can be read is loaded. -/
theorem Readable.load_image (readable : Readable settings disk) :
    ∃ image, Image.load disk settings.imageLocation = .ok image := by
  rcases readable.image with missing | ⟨content, image, held, decoded⟩
  · exact ⟨none, by simp [Image.load, Disk.has, missing]⟩
  · exact ⟨some image, by simp [Image.load, Disk.has, Disk.read, held, decoded]⟩

/-- A Primary is opened over an archive if the files beside it can be read. -/
theorem openAt_of_readable
    {log : Log}
    {chapters : List Log.Chapter}
    (archived : log.Archived disk chapters)
    (directory : log.directory = settings.editsLocation)
    (stands : disk.Stands settings.editsLocation)
    (word : log.flushedTxid ≤ Word.max)
    (readable : Readable settings disk) :
    ∃ primary, openAt disk settings = (disk, .ok primary) ∧
      primary.checkpointTxid ≤ Word.max := by
  obtain ⟨checkpointTxid, checkpointWord, keeps⟩ := readable.checkpoint
  obtain ⟨image, isImage⟩ := readable.load_image
  exact ⟨_,
    Service.openAt_of_loaded archived directory stands word
      (keeps.load checkpointWord) isImage, checkpointWord⟩

/-! ## Traffic -/

/-- What a Primary is exposed to. A crash is a step of the disk that fails,
together with all later ones of its event, and then a restart. -/
inductive Traffic
  /-- What happens to it in service. -/
  | serve (event : Service.Event)
  /-- Its log is purged, whether a checkpoint covers the transaction id or
  not. -/
  | purge (txid : Nat) (failures : Nat → Option Disk.Failure)

namespace Service

/-- Purge the log on a disk with failures. -/
def purge
    (service : Service)
    (txid : Nat)
    (failures : Nat → Option Disk.Failure) : Service :=
  let outcome := service.primary.catalog.withLog
    (service.primary.catalog.log.purgeThrough (service.disk.failing failures)
      txid)
  { service with
    disk := outcome.disk.mended,
    primary := { service.primary with catalog := outcome.state } }

/-- What a service is after one more piece of traffic. -/
def take (service : Service) : Traffic → Except ServiceError Service
  | .serve event => service.step event
  | .purge txid failures => .ok (service.purge txid failures)

/-- What keeps a data directory in a state from which a Primary is opened. Which
segments the log lists does not matter, so none is asked to be served. -/
structure Sturdy (settings : Settings) (service : Service) : Prop where
  sound : ({ service with openedTxid := Word.max }).Sound settings fun _ => True
  readable : Readable settings service.disk
  inForce : service.primary.checkpointTxid ≤ Word.max

variable {settings : Settings} {service : Service}

/-- The log was flushed up to a word. -/
theorem Sound.flushed_le
    {accepts : Record → Prop}
    (sound : service.Sound settings accepts) :
    service.primary.catalog.log.flushedTxid ≤ Word.max := by
  obtain ⟨chapters, archived, -⟩ := sound.archived
  have complete := archived.shelved.complete
  simp only [Log.flushedTxid_relisted, Log.lastTxid_relisted] at complete
  have word := sound.word
  rw [Catalog.appliedTxid] at word
  omega

/-- A service of which only transaction ids that are no words are asked to be
served is sound with any checkpoint id. -/
theorem Sound.unserved
    {accepts : Record → Prop}
    (sound : service.Sound settings accepts)
    (checkpointTxid : Nat) :
    Sound settings accepts
      ⟨service.disk, { service.primary with checkpointTxid := checkpointTxid },
        Word.max⟩ :=
  { sound with
    served := fun _ _ opened flushed =>
      absurd (Nat.le_trans flushed sound.flushed_le) (Nat.not_le.mpr opened) }

/-- A service of which nothing is asked to be served may give up any segment. -/
theorem Sound.purge_unserved
    {accepts : Record → Prop}
    (sound : ({ service with openedTxid := Word.max }).Sound settings accepts)
    (txid : Nat)
    (failures : Nat → Option Disk.Failure) :
    ({ service.purge txid failures with openedTxid := Word.max }).Sound settings
      accepts := by
  -- The log is purged as if a checkpoint covered all that goes.
  have covered :=
    ((sound.failing failures).unserved txid).purge (Nat.le_refl txid)
  exact (covered.failing fun _ => none).unserved service.primary.checkpointTxid

/-- A service that is sturdy can be opened anew with any settings of its data
directory. -/
theorem Sturdy.openAt
    (sturdy : service.Sturdy settings)
    {other : Settings}
    (sameHome : other.home = settings.home) :
    ∃ primary, Primary.openAt service.disk other = (service.disk, .ok primary) ∧
      primary.checkpointTxid ≤ Word.max := by
  obtain ⟨chapters, archived, -⟩ := sturdy.sound.archived
  have sameEdits : other.editsLocation = settings.editsLocation := by
    rw [Settings.editsLocation, Settings.editsLocation, sameHome]
  have sameImage : other.imageLocation = settings.imageLocation := by
    rw [Settings.imageLocation, Settings.imageLocation, sameHome]
  have sameStore : other.checkpointStore.location =
      settings.checkpointStore.location := by
    rw [Settings.checkpointStore, Settings.checkpointStore, sameHome]
  have readable : Readable other service.disk := by
    obtain ⟨txid, txidWord, keeps⟩ := sturdy.readable.checkpoint
    exact ⟨sameImage ▸ sturdy.readable.image, txid, txidWord, by
      rwa [Checkpoint.Store.Keeps, sameStore]⟩
  exact openAt_of_readable archived
    (sturdy.sound.directory.trans sameEdits.symm)
    (sameEdits ▸ sturdy.sound.stands) sturdy.sound.flushed_le readable

theorem Sturdy.mutate
    (sturdy : service.Sturdy settings)
    (operation : Operation)
    (next : service.primary.catalog.appliedTxid < Word.max) :
    ({ service with primary := (service.primary.mutate operation).1 }).Sturdy
      settings := by
  refine ⟨sturdy.sound.mutate operation next trivial, sturdy.readable, ?_⟩
  rw [mutate_eq]
  exact sturdy.inForce

theorem Sturdy.write
    (sturdy : service.Sturdy settings)
    (writing : Log.Writing)
    (failures : Nat → Option Disk.Failure) :
    (service.write writing failures).Sturdy settings :=
  ⟨sturdy.sound.write writing failures,
    sturdy.readable.frame fun _ outside =>
      Log.item?_write _ _ _ (sturdy.sound.directory.symm ▸ outside),
    sturdy.inForce⟩

theorem Sturdy.purge
    (sturdy : service.Sturdy settings)
    (txid : Nat)
    (failures : Nat → Option Disk.Failure) :
    (service.purge txid failures).Sturdy settings :=
  ⟨sturdy.sound.purge_unserved txid failures,
    sturdy.readable.frame fun _ outside =>
      Log.item?_purgeThrough _ _ _ (sturdy.sound.directory.symm ▸ outside),
    sturdy.inForce⟩

theorem Sturdy.upload
    (sturdy : service.Sturdy settings)
    (stream : Bytes)
    (failures : Nat → Option Disk.Failure) :
    (service.upload stream failures).Sturdy settings := by
  have configured : service.primary.settings = settings :=
    sturdy.sound.configured
  have received := (sturdy.readable.failing failures).receive stream
  refine ⟨sturdy.sound.upload stream failures, ?_, sturdy.inForce⟩
  rw [← configured] at received ⊢
  exact received.failing _

theorem Sturdy.report
    (sturdy : service.Sturdy settings)
    (txid : Nat)
    (failures : Nat → Option Disk.Failure) :
    (service.report txid failures).Sturdy settings := by
  have readable := sturdy.readable.failing failures
  have configured : service.primary.settings = settings :=
    sturdy.sound.configured
  have directory : service.primary.catalog.log.directory =
      settings.editsLocation :=
    sturdy.sound.directory
  have word : service.primary.catalog.appliedTxid ≤ Word.max :=
    sturdy.sound.word
  suffices kept : Readable settings (service.report txid failures).disk ∧
      (service.report txid failures).primary.checkpointTxid ≤ Word.max from
    ⟨sturdy.sound.report txid failures, kept.1, kept.2⟩
  unfold Service.report
  simp only
  rcases service.primary.updateCheckpoint_cases (service.disk.failing failures)
    txid with
    ⟨disk, state⟩ | ⟨state, error, failed⟩ |
      ⟨-, within, saved, isSaved, inForce⟩
  · rw [disk, state]
    exact ⟨readable.failing _, sturdy.inForce⟩
  · rw [configured] at failed
    rw [state]
    exact ⟨(readable.save (fun done => by cases done) failed).failing _,
      sturdy.inForce⟩
  · have reported : txid ≤ Word.max := Nat.le_trans within word
    rw [configured] at isSaved
    have readableSaved := readable.save (fun _ => reported) isSaved
    rcases inForce with ⟨disk, state⟩ | ⟨disk, state⟩
    · rw [disk, state]
      exact ⟨readableSaved.failing _, reported⟩
    · rw [disk, state]
      exact ⟨(readableSaved.frame fun _ outside =>
        Log.item?_purgeThrough _ _ _ (directory.symm ▸ outside)).failing _,
        reported⟩

theorem Sturdy.fetch
    (sturdy : service.Sturdy settings)
    (after : Nat) :
    ({ service with
      primary := (service.primary.fetchEdits service.disk after).1 }).Sturdy
      settings := by
  refine ⟨sturdy.sound.fetch after, sturdy.readable, ?_⟩
  unfold Primary.fetchEdits
  split <;> exact sturdy.inForce

theorem Sturdy.close
    (sturdy : service.Sturdy settings)
    (failures : Nat → Option Disk.Failure) :
    (service.close failures).Sturdy settings := by
  obtain ⟨disk, state, -⟩ :=
    service.primary.close_eq (service.disk.failing failures)
  have configured : service.primary.settings = settings :=
    sturdy.sound.configured
  have flushed := (sturdy.readable.failing failures).frame fun _ outside =>
    Log.item?_forceSync service.primary.catalog.log
      (service.disk.failing failures) (sturdy.sound.directory.symm ▸ outside)
  suffices kept : Readable settings (service.close failures).disk ∧
      (service.close failures).primary.checkpointTxid ≤ Word.max from
    ⟨sturdy.sound.close failures, kept.1, kept.2⟩
  unfold Service.close
  simp only
  rw [disk, state, configured]
  cases saved : settings.checkpointStore.save
      (service.primary.catalog.log.forceSync
        (service.disk.failing failures)).disk
      service.primary.checkpointTxid with
  | mk after answer =>
      exact ⟨(flushed.save (fun _ => sturdy.inForce) saved).failing _,
        sturdy.inForce⟩

/-- Whatever a service takes, it goes on and stays sturdy. -/
theorem Sturdy.take
    (sturdy : service.Sturdy settings)
    (traffic : Traffic) :
    ∃ after, service.take traffic = .ok after ∧ after.Sturdy settings := by
  cases traffic with
  | purge txid failures => exact ⟨_, rfl, sturdy.purge txid failures⟩
  | serve event =>
      cases event with
      | mutate operation =>
          simp only [Service.take, Service.step]
          split
          · rename_i next
            exact ⟨_, rfl, sturdy.mutate operation next⟩
          · exact ⟨_, rfl, sturdy⟩
      | write writing failures => exact ⟨_, rfl, sturdy.write writing failures⟩
      | upload stream failures => exact ⟨_, rfl, sturdy.upload stream failures⟩
      | report txid failures => exact ⟨_, rfl, sturdy.report txid failures⟩
      | fetch after => exact ⟨_, rfl, sturdy.fetch after⟩
      | attend fleet =>
          exact ⟨_, rfl, { sturdy.sound with }, sturdy.readable, sturdy.inForce⟩
      | close failures => exact ⟨_, rfl, sturdy.close failures⟩
      | restart =>
          obtain ⟨primary, opened, inForce⟩ := sturdy.openAt rfl
          have configured : service.primary.settings = settings :=
            sturdy.sound.configured
          obtain ⟨chapters, archived, accepted⟩ := sturdy.sound.archived
          refine ⟨⟨service.disk, primary, primary.catalog.appliedTxid⟩, ?_, ?_,
            sturdy.readable, inForce⟩
          · rw [Service.take, Service.step, Service.restart, configured, opened]
          · exact (sound_of_openAt archived accepted sturdy.sound.directory
              sturdy.sound.stands sturdy.sound.flushed_le opened).unserved
              primary.checkpointTxid

end Service

/-- Open a Primary, and expose it to a run of traffic. -/
def expose (disk : Disk) (settings : Settings) (traffic : List Traffic) :
    Except ServiceError Service :=
  match openAt disk settings with
  | (_, .error cause) => .error cause
  | (disk, .ok primary) =>
      traffic.foldlM Service.take ⟨disk, primary, primary.catalog.appliedTxid⟩

/-- A Primary that was opened on an empty data directory is sturdy. -/
theorem Service.sturdy_started
    {disk : Disk}
    {settings : Settings}
    (vacant : disk.Vacant settings.home) :
    Sturdy settings
      ⟨started disk settings, recovered settings [] [] 0 0, 0⟩ := by
  have noImage : (started disk settings).item? settings.imageLocation = none :=
    (item?_started disk settings
      (append_ne_append (by decide) settings.home)).trans
      (vacant.empty [Settings.imageName] (by simp) (by decide))
  exact ⟨(sound_started vacant _).unserved 0,
    ⟨.inl noImage, 0, Nat.zero_le _, (stored_started vacant).checkpoint⟩,
    Nat.zero_le _⟩

/-- Whatever a Primary that was started on an empty data directory was exposed
to, every restart on the way succeeds, and so does the next one. -/
theorem openAt_of_exposed
    {disk : Disk}
    {settings : Settings}
    (reliable : disk.Reliable)
    (vacant : disk.Vacant settings.home)
    (traffic : List Traffic) :
    ∃ service, expose disk settings traffic = .ok service ∧
      ∀ other : Settings, other.home = settings.home →
        ∃ primary, openAt service.disk other = (service.disk, .ok primary) := by
  obtain ⟨service, isRun, sturdy⟩ := foldlM_of_allowed
    (fun event (_ : event ∈ traffic) service
      (sturdy : service.Sturdy settings) =>
      sturdy.take event) (Service.sturdy_started vacant)
  refine ⟨service, ?_, fun other sameHome => ?_⟩
  · rw [expose, openAt_of_vacant reliable vacant]
    exact isRun
  · obtain ⟨primary, opened, -⟩ := sturdy.openAt sameHome
    exact ⟨primary, opened⟩

/-- A crash before a step of the disk, which lets five bytes of a write
through. -/
def crashBefore (step : Nat) : Nat → Option Disk.Failure :=
  fun tried => if tried < step then none else some ⟨.other "crash", 5⟩

/-- An image that the log contradicts, junk, a crash while a segment is written,
a purge that no checkpoint covers, and a crash while the checkpoint id is
saved. -/
def roughTraffic : List Traffic :=
  [.serve (.mutate (.makeDirectory "/a/b")),
    .serve (.write .roll fun _ => none), .serve (.upload (Upload.frame
      (Image.encode 9 (.directory "/" [.file "a"] (.ofNames ["a"])))) fun _ =>
      none),
    .serve (.upload [1, 2, 3] fun _ => none),
    .serve (.mutate (.createFile "/a/\"\n")),
    .serve (.write .roll (crashBefore 10)), .serve .restart,
    .serve (.mutate (.makeDirectory "/c")), .serve (.write .roll fun _ => none),
    .purge 9 fun _ => none, .serve (.report 10 (crashBefore 17)),
    .serve (.close fun _ => none)]

/-- The start passes over what the crashes left. -/
theorem openAt_of_exposed_rough :
    ∃ service,
      expose Disk.empty (Settings.ofDirectory ".") roughTraffic = .ok service ∧
      service.primary.catalog.appliedTxid = 10 ∧
      service.primary.catalog.log.spans = [⟨10, 10⟩] ∧
      service.disk.has ["edits", "2_2.log.tmp"] = true ∧
      ∃ primary, openAt service.disk (Settings.ofDirectory ".") =
        (service.disk, .ok primary) := by
  have outcome : (expose Disk.empty (Settings.ofDirectory ".")
      roughTraffic).toOption.map
      (fun service => (service.primary.catalog.appliedTxid,
        service.primary.catalog.log.spans,
        service.disk.has ["edits", "2_2.log.tmp"])) =
      some (10, [⟨10, 10⟩], true) := by decide +kernel
  obtain ⟨service, exposed, opens⟩ := openAt_of_exposed (fun _ => rfl)
    (show Disk.empty.Vacant (Settings.ofDirectory ".").home from
      Disk.vacant_empty) roughTraffic
  simp only [exposed, Except.toOption, Option.map_some, Option.some.injEq,
    Prod.mk.injEq] at outcome
  obtain ⟨applied, spans, left⟩ := outcome
  exact ⟨service, exposed, applied, spans, left, opens _ rfl⟩

end Primary
end NameService
