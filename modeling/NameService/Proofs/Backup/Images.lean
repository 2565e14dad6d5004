import NameService.Proofs.Backup.Keeping

/-!
# Images that a Backup leaves behind

The image of a checkpoint is written before it is sent and reported, and once a
checkpoint is remembered only the image of the one before it is deleted. So an
attempt that comes to nothing behind the writing leaves its image, and no later
checkpoint deletes it, but for one of the same transaction id. These strays, and
what could not be deleted, are all that is ever left besides the image of the
last checkpoint.
-/

namespace NameService
namespace Backup

variable {settings : Settings} {disk after : Disk} {name : String}

/-! ## Images in a data directory -/

/-- There is something in the data directory that is named as an image. -/
def HasImage (settings : Settings) (disk : Disk) (name : String) : Prop :=
  Settings.NamesImage name ∧ disk.has (settings.home ++ [name]) = true

/-- The same images are there as long as none is touched. -/
theorem hasImage_congr
    (same : Settings.NamesImage name →
      after.item? (settings.home ++ [name]) =
        disk.item? (settings.home ++ [name])) :
    HasImage settings after name ↔ HasImage settings disk name :=
  and_congr_right fun isImage => by rw [Disk.has, Disk.has, same isImage]

/-- No image is touched when a checkpoint is saved. -/
theorem item?_image_of_save
    {info : Checkpoint.Info}
    {answer : Except FileError Unit}
    (saved : info.save disk settings.checkpointInfoLocation = (after, answer))
    (isImage : Settings.NamesImage name) :
    after.item? (settings.home ++ [name]) =
      disk.item? (settings.home ++ [name]) := by
  have touches : Touches settings _ disk after := touches_replace saved
  have notInfo : name ≠ Settings.checkpointInfoName := isImage.ne (by decide)
  have notScratch : name ≠
      Disk.nameWithExtension "tmp" Settings.checkpointInfoName :=
    Disk.nameWithExtension_ne (by simp [isImage.getLast?_eq])
  exact touches.item?_eq (by simp [notInfo, notScratch])

/-- No other image is touched when one is written, and none if the writing
fails. -/
theorem item?_image_of_replace
    {txid : Nat}
    {content : Bytes}
    {answer : Except FileError Unit}
    (replaced : disk.replace (settings.backupImageLocation txid) content =
      (after, answer))
    (isImage : Settings.NamesImage name)
    (other : name ≠ Settings.backupImageName txid ∨ answer ≠ .ok ()) :
    after.item? (settings.home ++ [name]) =
      disk.item? (settings.home ++ [name]) := by
  have notScratch : name ≠
      Disk.nameWithExtension "tmp" (Settings.backupImageName txid) :=
    Disk.nameWithExtension_ne (by simp [isImage.getLast?_eq])
  by_cases isWritten : name = Settings.backupImageName txid
  · cases answer with
    | error cause =>
        refine Disk.item?_of_replace_error replaced ?_
        rw [Settings.backupImageLocation, Primary.scratch_append_singleton]
        exact Primary.append_ne_append notScratch settings.home
    | ok done => exact (other.resolve_left (absurd isWritten) rfl).elim
  · exact (touches_replace replaced).item?_eq (by simp [isWritten, notScratch])

/-- The transaction id of an earlier image that has to go and cannot be
deleted. -/
def undeleted
    (settings : Settings)
    (disk : Disk)
    (earlier : Option Checkpoint.Info)
    (current : String) : List Nat :=
  match earlier with
  | none => []
  | some info =>
      if info.imageFile = current then []
      else
        match (disk.perform
          (.remove (settings.resolve disk info.imageFile))).2 with
        | .ok () => []
        | .error _ => [info.txid]

variable {earlier : Option Checkpoint.Info} {current : String}

/-- Only the earlier image can be undeleted. -/
theorem mem_undeleted
    {txid : Nat}
    (stays : txid ∈ undeleted settings disk earlier current) :
    txid ∈ earlier.map Checkpoint.Info.txid := by
  cases earlier with
  | none => cases stays
  | some info =>
      rw [undeleted] at stays
      split at stays
      · cases stays
      · split at stays
        · cases stays
        · rw [List.mem_singleton.mp stays]
          rfl

/-- The earlier checkpoint if its image has to go and is deleted. -/
def dropped
    (settings : Settings)
    (disk : Disk)
    (earlier : Option Checkpoint.Info)
    (current : String) : List Checkpoint.Info :=
  earlier.toList.filter fun info =>
    info.txid ∉ undeleted settings disk earlier current

theorem mem_dropped {info : Checkpoint.Info} :
    info ∈ dropped settings disk earlier current ↔
      info ∈ earlier ∧ info.txid ∉ undeleted settings disk earlier current := by
  simp [dropped]

/-- The image of the dropped checkpoint goes, and nothing else does. -/
theorem item?_dropImage
    (direct : settings.Direct disk Settings.imageNameLength)
    (named : ∀ info ∈ earlier,
      info.imageFile = Settings.backupImageName info.txid ∧
        info.txid ≤ Word.max)
    (others : ∀ info ∈ earlier, info.imageFile ≠ current)
    (name : String) :
    (dropImage settings disk earlier current).item? (settings.home ++ [name]) =
      if ∃ info ∈ dropped settings disk earlier current,
        info.imageFile = name then none
      else disk.item? (settings.home ++ [name]) := by
  cases earlier with
  | none => simp [dropImage, dropped]
  | some info =>
      obtain ⟨isNamed, word⟩ := named info rfl
      have leads : settings.resolve disk info.imageFile =
          settings.home ++ [info.imageFile] := by
        rw [isNamed, direct.resolve_backupImageName word]
        rfl
      simp only [dropImage, mem_dropped, undeleted, if_neg (others info rfl),
        leads, Option.mem_def, Option.some.injEq, and_assoc, exists_eq_left']
      cases removed :
        disk.perform (.remove (settings.home ++ [info.imageFile])) with
      | mk dropped answer =>
          cases answer with
          | error cause =>
              obtain rfl := Disk.eq_of_error removed (by simp)
              simp
          | ok done =>
              by_cases isEarlier : info.imageFile = name
              · subst isEarlier
                simpa using
                  Disk.item?_remove (Disk.effect_of_perform_ok removed)
              · have touches : Touches settings [info.imageFile] disk _ :=
                  touches_remove disk info.imageFile
                rw [removed] at touches
                simpa [isEarlier] using
                  touches.item?_eq (by simpa using Ne.symm isEarlier)

/-! ## Accounts -/

/-- The checkpoint that is remembered of a shipment at a time. -/
def Shipment.info (shipment : Shipment) (milliseconds : Nat) :
    Checkpoint.Info :=
  ⟨stamp milliseconds, shipment.txid, Settings.backupImageName shipment.txid⟩

/-- A Backup with an account of its images. -/
structure Gallery where
  course : Course
  /-- The tree that was there when the last checkpoint began. -/
  subject : Option Tree
  /-- The transaction ids of images that were written, and of no checkpoint that
  was remembered since. -/
  strays : List Nat
  /-- The transaction ids of images that had to go and could not be deleted. -/
  spared : List Nat

namespace Gallery

/-- The transaction ids of all images there are. -/
def txids (gallery : Gallery) : List Nat :=
  (gallery.course.backup.lastCheckpoint.map Checkpoint.Info.txid).toList ++
    (gallery.strays ++ gallery.spared)

/-- Begin a checkpoint. Its image is a stray as long as it is not remembered. -/
def begin (gallery : Gallery) (failures : Nat → Option Disk.Failure) :
    Gallery :=
  let after := gallery.course.begin failures
  { gallery with
    course := after
    subject := gallery.course.backup.catalog.map Catalog.tree
    strays := (after.shipment.map Shipment.txid).toList ++ gallery.strays }

/-- Finish a checkpoint. Once it is remembered its image is no stray, and the
one before it is spared if it cannot be deleted. -/
def finish
    (gallery : Gallery)
    (shipment : Shipment)
    (milliseconds : Nat)
    (failures : Nat → Option Disk.Failure) : Gallery :=
  let after := gallery.course.finish shipment milliseconds failures
  let backup := gallery.course.backup
  let info := shipment.info milliseconds
  match info.save (gallery.course.disk.failing failures)
      backup.settings.checkpointInfoLocation with
  | (_, .error _) => { gallery with course := after }
  | (saved, .ok ()) =>
      { gallery with
        course := after
        strays := gallery.strays.filter (· != shipment.txid)
        spared := gallery.spared.filter (· != shipment.txid) ++
          undeleted backup.settings saved backup.lastCheckpoint info.imageFile }

/-- What a Backup and its account are after one more event. -/
def step (gallery : Gallery) : Event → Except ServiceError Gallery
  | .begin failures => .ok (gallery.begin failures)
  | .finish milliseconds failures =>
      match gallery.course.shipment with
      | none => .ok gallery
      | some shipment => .ok (gallery.finish shipment milliseconds failures)
  | event => (gallery.course.step event).map fun after =>
      { gallery with course := after }

/-- What they are after a run of events. -/
def run (gallery : Gallery) (events : List Event) :
    Except ServiceError Gallery :=
  events.foldlM step gallery

/-- Start a Backup on a disk, with an empty account, and let a run of events
happen to it. -/
def start
    (disk : Disk)
    (settings : Settings)
    (events : List Event) : Except ServiceError Gallery := do
  let course ← Course.restart ⟨disk, new settings, none⟩
  run ⟨course, none, [], []⟩ events

theorem course_finish
    (gallery : Gallery)
    (shipment : Shipment)
    (milliseconds : Nat)
    (failures : Nat → Option Disk.Failure) :
    (gallery.finish shipment milliseconds failures).course =
      gallery.course.finish shipment milliseconds failures := by
  rw [finish]
  split <;> rfl

/-- The account makes no difference to the Backup. -/
theorem course_step (gallery : Gallery) (event : Event) :
    (gallery.step event).map Gallery.course = gallery.course.step event := by
  cases event with
  | finish milliseconds failures =>
      cases isSent : gallery.course.shipment with
      | none => simp only [step, Course.step, isSent, Except.map]
      | some shipment =>
          simp only [step, Course.step, isSent, Except.map]
          rw [course_finish]
  | restart =>
      show (gallery.course.restart.map _).map Gallery.course =
        gallery.course.restart
      cases gallery.course.restart <;> rfl
  | _ => rfl

/-- The account makes no difference to a run of events. -/
theorem course_run (gallery : Gallery) (events : List Event) :
    (gallery.run events).map Gallery.course = gallery.course.run events := by
  induction events generalizing gallery with
  | nil => rfl
  | cons event rest hypothesis =>
      have one := gallery.course_step event
      rw [run, Course.run, List.foldlM_cons, List.foldlM_cons, ← one]
      cases gallery.step event with
      | error cause => rfl
      | ok after => exact hypothesis after

theorem course_start (disk : Disk) (settings : Settings) (events : List Event) :
    (start disk settings events).map Gallery.course =
      Course.start disk settings events := by
  rw [start, Course.start]
  cases Course.restart ⟨disk, new settings, none⟩ with
  | error cause => rfl
  | ok course => exact course_run ⟨course, none, [], []⟩ events

/-! ## The invariant -/

/-- The image of a tree is in the data directory, on its way to the Primary. -/
structure Pictures
    (settings : Settings)
    (disk : Disk)
    (shipment : Shipment)
    (tree : Tree) :
    Prop where
  rooted : tree.Rooted
  content : shipment.content = Image.encode shipment.txid tree
  held : disk.item? (settings.backupImageLocation shipment.txid) =
    some (.file shipment.content)

/-- The account of a Backup is true of its data directory. -/
structure Accounted (settings : Settings) (gallery : Gallery) : Prop where
  standing : ∃ catalog, gallery.course.Settled settings catalog ∧
    catalog.tree.Rooted
  images : ∀ name, HasImage settings gallery.course.disk name ↔
    ∃ txid ∈ gallery.txids, name = Settings.backupImageName txid
  /-- The image of the last checkpoint has no other reason to be there. -/
  apart : ∀ info ∈ gallery.course.backup.lastCheckpoint,
    info.txid ∉ gallery.strays ∧ info.txid ∉ gallery.spared
  /-- The image of the checkpoint that is under way is a stray. -/
  shipped : ∀ shipment ∈ gallery.course.shipment,
    shipment.txid ∈ gallery.strays ∧
    ∃ tree ∈ gallery.subject,
      Pictures settings gallery.course.disk shipment tree

variable {gallery : Gallery} {catalog : Catalog}

theorem mem_txids {txid : Nat} :
    txid ∈ gallery.txids ↔
      (∃ info ∈ gallery.course.backup.lastCheckpoint, info.txid = txid) ∨
        txid ∈ gallery.strays ∨ txid ∈ gallery.spared := by
  simp [txids]

/-- The account stays true as long as no image is touched and no checkpoint
remembered. -/
theorem Accounted.carry
    (accounted : gallery.Accounted settings)
    {course : Course}
    (standing : ∃ catalog, course.Settled settings catalog ∧
      catalog.tree.Rooted)
    (frame : ∀ name, Settings.NamesImage name →
      course.disk.item? (settings.home ++ [name]) =
      gallery.course.disk.item? (settings.home ++ [name]))
    (last : course.backup.lastCheckpoint = gallery.course.backup.lastCheckpoint)
    (sent : ∀ shipment ∈ course.shipment, shipment ∈ gallery.course.shipment) :
    Accounted settings { gallery with course := course } := by
  refine ⟨standing, fun name => ?_, ?_, fun shipment isSent => ?_⟩
  · rw [hasImage_congr (frame name), accounted.images]
    simp only [mem_txids, last]
  · rw [last]
    exact accounted.apart
  · obtain ⟨isStray, tree, isSubject, pictures⟩ :=
      accounted.shipped shipment (sent shipment isSent)
    exact ⟨isStray, tree, isSubject, pictures.rooted, pictures.content,
      (frame _ (Settings.namesImage_backupImageName _)).trans pictures.held⟩

/-! ## Events -/

theorem Accounted.deliver
    (accounted : gallery.Accounted settings)
    {records : List Record}
    (words : ∀ record ∈ records, record.txid ≤ Word.max) :
    Accounted settings { gallery with
      course.backup := (gallery.course.backup.absorb records).1 } := by
  obtain ⟨catalog, settled, rooted⟩ := accounted.standing
  obtain ⟨after, settledNow⟩ := settled.deliver words
  have absorbed : (gallery.course.backup.absorb records).1 =
      { gallery.course.backup with
        catalog := some (catalog.applyBatch records).1 } := by
    simp only [absorb, settled.tailing]
  rw [absorbed] at settledNow ⊢
  obtain rfl := Option.some.inj settledNow.tailing
  have rootedNow : (catalog.applyBatch records).1.tree.Rooted := by
    refine Catalog.applyBatch_induction (fun catalog => catalog.tree.Rooted)
      (fun catalog record present kept => ?_) rooted
    rcases catalog.applyRecord_cases record with same | isNext
    · rwa [same]
    · rw [Catalog.applyRecord_next (words record present) isNext]
      exact kept.absorb record.operation
  exact accounted.carry ⟨_, settledNow, rootedNow⟩ (fun _ _ => rfl)
    rfl fun _ isSent => isSent

theorem Accounted.write
    (accounted : gallery.Accounted settings)
    (writing : Log.Writing)
    (failures : Nat → Option Disk.Failure) :
    Accounted settings
      { gallery with course := gallery.course.write writing failures } := by
  obtain ⟨catalog, settled, rooted⟩ := accounted.standing
  obtain ⟨after, settledNow⟩ := settled.write writing failures
  obtain ⟨chapters, lies⟩ := settled.lies
  rw [Course.write, settled.tailing] at settledNow ⊢
  obtain rfl := Option.some.inj settledNow.tailing
  refine accounted.carry ⟨_, settledNow, rooted⟩ (fun name _ => ?_)
    rfl fun _ isSent => isSent
  exact Log.item?_write catalog.log (gallery.course.disk.failing failures)
    writing (lies.directory ▸ Primary.outside_editsLocation settings name)

/-- A beginning leaves no checkpoint under way and all images as they are, or it
writes the image of one. -/
theorem begin_cases
    {course : Course}
    (settled : course.Settled settings catalog)
    (failures : Nat → Option Disk.Failure) :
    (∃ disk,
      course.begin failures = { course with disk := disk, shipment := none } ∧
      ∀ name, Settings.NamesImage name →
        disk.item? (settings.home ++ [name]) =
          course.disk.item? (settings.home ++ [name])) ∨
    course.backup.lastCheckpoint.map Checkpoint.Info.txid ≠
      some catalog.appliedTxid ∧
      ∃ disk,
        course.begin failures =
          { course with
            disk := disk
            shipment := some ⟨catalog.appliedTxid,
              Image.encode catalog.appliedTxid catalog.tree⟩ } ∧
        disk.item? (settings.backupImageLocation catalog.appliedTxid) =
          some (.file (Image.encode catalog.appliedTxid catalog.tree)) ∧
        ∀ name, Settings.NamesImage name →
          name ≠ Settings.backupImageName catalog.appliedTxid →
          disk.item? (settings.home ++ [name]) =
            course.disk.item? (settings.home ++ [name]) := by
  rw [Course.begin]
  rcases beginCheckpoint_cases settled.tailing
    (course.disk.failing failures) with
    same | ⟨fresh, after, answer, replaced, outcome⟩
  · rw [same]
    exact .inl ⟨_, rfl, fun _ _ => rfl⟩
  · rw [settled.configured] at replaced
    rw [outcome]
    have frame (name : String) (isImage : Settings.NamesImage name) :=
      item?_image_of_replace replaced isImage
    cases answer with
    | error cause =>
        exact .inl
          ⟨after.mended, rfl,
            fun name isImage => frame name isImage (.inr (by simp))⟩
    | ok done =>
        have held := Disk.item?_replaced replaced
        exact .inr ⟨fresh, after.mended, rfl, held,
          fun name isImage other => frame name isImage (.inl other)⟩

/-- The image that is written is accounted for as a stray. -/
theorem Accounted.begin
    (accounted : gallery.Accounted settings)
    (failures : Nat → Option Disk.Failure) :
    (gallery.begin failures).Accounted settings := by
  obtain ⟨catalog, settled, rooted⟩ := accounted.standing
  have settledNow := settled.begin failures
  rw [Gallery.begin, settled.tailing]
  rcases begin_cases settled failures with
    ⟨disk, begun, frame⟩ | ⟨fresh, disk, begun, held, frame⟩
  · rw [begun] at settledNow ⊢
    refine ⟨⟨catalog, settledNow, rooted⟩, fun name => ?_, accounted.apart,
      fun _ isSent => by cases isSent⟩
    exact (hasImage_congr (frame name)).trans (accounted.images name)
  · rw [begun] at settledNow ⊢
    refine ⟨⟨catalog, settledNow, rooted⟩, fun name => ?_,
      fun info isLast => ?_,
      fun shipment isSent => ?_⟩
    · have written :
          HasImage settings disk
            (Settings.backupImageName catalog.appliedTxid) := by
        refine ⟨Settings.namesImage_backupImageName _, ?_⟩
        rw [Disk.has,
          show settings.home ++ [_] = settings.backupImageLocation _ from rfl,
          held]
        rfl
      have before := accounted.images name
      by_cases isWritten : name = Settings.backupImageName catalog.appliedTxid
      · subst isWritten
        exact iff_of_true written
          ⟨_, mem_txids.mpr (.inr (.inl List.mem_cons_self)), rfl⟩
      · rw [hasImage_congr fun isImage => frame name isImage isWritten, before]
        refine exists_congr fun txid => and_congr_left fun isName => ?_
        have other : txid ≠ catalog.appliedTxid := by
          rintro rfl
          exact isWritten isName
        simp [mem_txids, other]
    · obtain ⟨notStray, notSpared⟩ := accounted.apart info isLast
      have other : info.txid ≠ catalog.appliedTxid := by
        intro same
        rw [Option.mem_def.mp isLast, Option.map_some, same] at fresh
        exact fresh rfl
      simp [other, notStray, notSpared]
    · obtain rfl := Option.some.inj isSent
      exact ⟨List.mem_cons_self, catalog.tree, rfl, rooted, rfl, held⟩

/-- A checkpoint that is not saved leaves the Backup as it is. -/
theorem finishCheckpoint_of_unsaved
    {backup : Backup}
    (tailing : backup.catalog = some catalog)
    {disk unsaved : Disk}
    {now txid : Nat}
    {error : FileError}
    (failed : Checkpoint.Info.save ⟨now, txid, Settings.backupImageName txid⟩
      disk backup.settings.checkpointInfoLocation = (unsaved, .error error)) :
    (backup.finishCheckpoint disk now txid).disk = unsaved ∧
      (backup.finishCheckpoint disk now txid).state = backup := by
  rcases finishCheckpoint_cases tailing disk now txid with
    ⟨state, cause, alsoFailed⟩ | ⟨saved, done, -⟩
  · cases failed.symm.trans alsoFailed
    exact ⟨rfl, state⟩
  · cases failed.symm.trans done

/-- What it means for a Backup that a checkpoint was saved. -/
theorem finishCheckpoint_of_saved
    {backup : Backup}
    {catalog : Catalog}
    (tailing : backup.catalog = some catalog)
    {disk saved : Disk}
    {now txid : Nat}
    (done : Checkpoint.Info.save ⟨now, txid, Settings.backupImageName txid⟩ disk
      backup.settings.checkpointInfoLocation = (saved, .ok ())) :
    (backup.finishCheckpoint disk now txid).state.lastCheckpoint =
        some ⟨now, txid, Settings.backupImageName txid⟩ ∧
      (∃ log, (backup.finishCheckpoint disk now txid).state.catalog =
        some { catalog with log := log }) ∧
      ∀ place, Log.Outside catalog.log.directory place →
        (backup.finishCheckpoint disk now txid).disk.item? place =
          (dropImage backup.settings saved backup.lastCheckpoint
            (Settings.backupImageName txid)).item? place := by
  rcases finishCheckpoint_cases tailing disk now txid with
    ⟨-, error, failed⟩ | ⟨other, alsoDone, ⟨after, state⟩ | ⟨after, state⟩⟩
  · cases done.symm.trans failed
  · cases done.symm.trans alsoDone
    rw [after, state]
    exact ⟨rfl, ⟨catalog.log, tailing⟩, fun _ _ => rfl⟩
  · cases done.symm.trans alsoDone
    rw [after, state]
    exact ⟨rfl, ⟨_, rfl⟩, fun _ outside => Log.item?_purgeThrough _ _ _ outside⟩

variable {shipment : Shipment} {milliseconds : Nat}
  {failures : Nat → Option Disk.Failure}

/-- The checkpoint before the one that is under way has another image. -/
theorem Accounted.other_image
    (accounted : gallery.Accounted settings)
    (isUnderWay : shipment ∈ gallery.course.shipment) :
    ∀ known ∈ gallery.course.backup.lastCheckpoint,
      known.imageFile ≠ Settings.backupImageName shipment.txid := by
  intro known isLast same
  obtain ⟨catalog, settled, -⟩ := accounted.standing
  obtain ⟨isStray, -⟩ := accounted.shipped shipment isUnderWay
  rw [(settled.remembers.named known isLast).1] at same
  exact (accounted.apart known isLast).1
    (Settings.backupImageName_injective same ▸ isStray)

/-- Once a checkpoint is saved the image of the one before it goes, unless it
cannot be deleted, and all other ones stay. -/
theorem Accounted.item?_image_of_finish
    (accounted : gallery.Accounted settings)
    (isUnderWay : shipment ∈ gallery.course.shipment)
    {saved : Disk}
    (done : (shipment.info milliseconds).save
      (gallery.course.disk.failing failures) settings.checkpointInfoLocation =
      (saved, .ok ()))
    (isImage : Settings.NamesImage name) :
    (gallery.course.finish shipment milliseconds failures).disk.item?
      (settings.home ++ [name]) =
      if ∃ known ∈ dropped settings saved gallery.course.backup.lastCheckpoint
        (Settings.backupImageName shipment.txid), known.imageFile = name then
          none
      else gallery.course.disk.item? (settings.home ++ [name]) := by
  obtain ⟨catalog, settled, -⟩ := accounted.standing
  obtain ⟨chapters, lies⟩ := settled.lies
  have touches :
      Touches settings _ (gallery.course.disk.failing failures) saved :=
    touches_replace done
  have direct :=
    (settled.remembers.failing failures).direct.retained touches.retains
  have image := item?_dropImage direct settled.remembers.named
    (accounted.other_image isUnderWay) name
  rw [item?_image_of_save done isImage] at image
  rw [← settled.configured] at done
  have frame :=
    (finishCheckpoint_of_saved settled.tailing done).2.2
      (settings.home ++ [name])
      (lies.directory ▸ Primary.outside_editsLocation settings name)
  rw [settled.configured] at frame
  exact frame.trans image

theorem Accounted.hasImage_of_finish
    (accounted : gallery.Accounted settings)
    (isUnderWay : shipment ∈ gallery.course.shipment)
    {saved : Disk}
    (done : (shipment.info milliseconds).save
      (gallery.course.disk.failing failures) settings.checkpointInfoLocation =
      (saved, .ok ()))
    (name : String) :
    HasImage settings
      (gallery.course.finish shipment milliseconds failures).disk name ↔
      HasImage settings gallery.course.disk name ∧
        ¬ ∃ known ∈ dropped settings saved gallery.course.backup.lastCheckpoint
          (Settings.backupImageName shipment.txid), known.imageFile = name := by
  rw [HasImage, HasImage, and_assoc]
  refine and_congr_right fun isImage => ?_
  rw [Disk.has, Disk.has,
    accounted.item?_image_of_finish isUnderWay done isImage]
  split
  · rename_i gone
    exact iff_of_false (by simp) fun there => there.2 gone
  · rename_i stays
    exact (and_iff_left stays).symm

/-- A checkpoint that is saved is accounted for as the last one, and the one
before it as gone or spared. -/
theorem Accounted.mem_txids_finish
    (accounted : gallery.Accounted settings)
    (isUnderWay : shipment ∈ gallery.course.shipment)
    {saved : Disk}
    (done : (shipment.info milliseconds).save
      (gallery.course.disk.failing failures) settings.checkpointInfoLocation =
      (saved, .ok ()))
    (txid : Nat) :
    txid ∈ (gallery.finish shipment milliseconds failures).txids ↔
      txid ∈ gallery.txids ∧
        ¬ ∃ known ∈ dropped settings saved gallery.course.backup.lastCheckpoint
          (Settings.backupImageName shipment.txid), known.txid = txid := by
  obtain ⟨catalog, settled, -⟩ := accounted.standing
  obtain ⟨isStray, -⟩ := accounted.shipped shipment isUnderWay
  have isLast :
      (gallery.course.finish shipment milliseconds
          failures).backup.lastCheckpoint =
      some (shipment.info milliseconds) :=
    (finishCheckpoint_of_saved settled.tailing
      (settled.configured.symm ▸ done)).1
  rw [mem_txids, mem_txids, Gallery.finish, settled.configured, done]
  simp only [isLast, Shipment.info, mem_dropped, Option.mem_def,
    Option.some.injEq, exists_eq_left']
  generalize isUndeleted : undeleted settings saved
    gallery.course.backup.lastCheckpoint
    (Settings.backupImageName shipment.txid) = stays
  have known (present : txid ∈ stays) :
      txid ∈ gallery.course.backup.lastCheckpoint.map Checkpoint.Info.txid := by
    rw [← isUndeleted] at present
    exact mem_undeleted present
  by_cases own : txid = shipment.txid
  · subst own
    have other : ∀ known ∈ gallery.course.backup.lastCheckpoint,
        known.txid ≠ shipment.txid :=
      fun known isKnown same =>
        (accounted.apart known isKnown).1 (same ▸ isStray)
    simp only [true_or, isStray, or_true, true_and, true_iff]
    rintro ⟨known, ⟨isKnown, -⟩, same⟩
    exact other known isKnown same
  · cases isKnown : gallery.course.backup.lastCheckpoint with
    | none =>
        have gone : txid ∉ stays :=
          fun present => by simpa [isKnown] using known present
        simp [Ne.symm own, own, gone]
    | some earlier =>
        obtain ⟨notStray, notSpared⟩ := accounted.apart earlier isKnown
        by_cases same : earlier.txid = txid
        · subst same
          simp [Ne.symm own, notStray, notSpared]
        · have gone : txid ∉ stays :=
            fun present => same (by simpa [isKnown] using known present)
          simp [Ne.symm own, own, same, gone]

/-- The account of a checkpoint that is remembered is true. -/
theorem Accounted.finish_saved
    (accounted : gallery.Accounted settings)
    (isUnderWay : shipment ∈ gallery.course.shipment)
    {saved : Disk}
    (done : (shipment.info milliseconds).save
      (gallery.course.disk.failing failures) settings.checkpointInfoLocation =
      (saved, .ok ())) :
    (gallery.finish shipment milliseconds failures).Accounted settings := by
  obtain ⟨catalog, settled, rooted⟩ := accounted.standing
  obtain ⟨after, settledNow⟩ := settled.finish isUnderWay milliseconds failures
  obtain ⟨isStray, -⟩ := accounted.shipped shipment isUnderWay
  obtain ⟨last, ⟨log, catalogNow⟩, -⟩ :=
    finishCheckpoint_of_saved settled.tailing (settled.configured.symm ▸ done)
  have isCatalog := Option.some.inj (settledNow.tailing.symm.trans catalogNow)
  have members := accounted.mem_txids_finish isUnderWay done
  rw [← course_finish] at settledNow
  refine ⟨⟨after, settledNow, isCatalog ▸ rooted⟩, fun name => ?_,
    fun info isInfo => ?_,
    fun _ isSent => ?_⟩
  · rw [course_finish, accounted.hasImage_of_finish isUnderWay done,
      accounted.images]
    have named (known : Checkpoint.Info)
        (isDropped : known ∈
          dropped settings saved gallery.course.backup.lastCheckpoint
            (Settings.backupImageName shipment.txid)) :
        known.imageFile = Settings.backupImageName known.txid :=
      (settled.remembers.named known (mem_dropped.mp isDropped).1).1
    constructor
    · rintro ⟨⟨txid, present, rfl⟩, stays⟩
      refine ⟨txid, (members txid).mpr ⟨present, ?_⟩, rfl⟩
      rintro ⟨known, isDropped, rfl⟩
      exact stays ⟨known, isDropped, named known isDropped⟩
    · rintro ⟨txid, present, rfl⟩
      obtain ⟨before, stays⟩ := (members txid).mp present
      refine ⟨⟨txid, before, rfl⟩, ?_⟩
      rintro ⟨known, isDropped, same⟩
      rw [named known isDropped] at same
      exact stays ⟨known, isDropped, Settings.backupImageName_injective same⟩
  · rw [course_finish] at isInfo
    obtain rfl := Option.some.inj (last.symm.trans isInfo)
    rw [Gallery.finish, settled.configured, done]
    refine ⟨by simp, fun isSpared => ?_⟩
    rcases List.mem_append.mp isSpared with still | stays
    · simp at still
    · obtain ⟨earlier, isEarlier, same⟩ :=
        Option.map_eq_some_iff.mp (mem_undeleted stays)
      exact (accounted.apart earlier isEarlier).1 (same ▸ isStray)
  · rw [course_finish] at isSent
    cases isSent

/-- The account of a checkpoint that is not remembered is true. -/
theorem Accounted.finish_unsaved
    (accounted : gallery.Accounted settings)
    (isUnderWay : shipment ∈ gallery.course.shipment)
    {unsaved : Disk}
    {error : FileError}
    (failed : (shipment.info milliseconds).save
      (gallery.course.disk.failing failures) settings.checkpointInfoLocation =
      (unsaved, .error error)) :
    (gallery.finish shipment milliseconds failures).Accounted settings := by
  obtain ⟨catalog, settled, rooted⟩ := accounted.standing
  obtain ⟨after, settledNow⟩ := settled.finish isUnderWay milliseconds failures
  obtain ⟨disk, state⟩ :=
    finishCheckpoint_of_unsaved settled.tailing
      (settled.configured.symm ▸ failed)
  have finished : gallery.course.finish shipment milliseconds failures =
      ⟨unsaved.mended, gallery.course.backup, none⟩ := by
    rw [Course.finish, disk, state]
  rw [finished] at settledNow
  have isCatalog :=
    Option.some.inj (settledNow.tailing.symm.trans settled.tailing)
  have frame (name : String) (isImage : Settings.NamesImage name) :=
    item?_image_of_save failed isImage
  rw [Gallery.finish, settled.configured, failed, finished]
  exact accounted.carry ⟨after, settledNow, isCatalog ▸ rooted⟩ frame rfl
    fun _ isSent => by cases isSent

/-- A new process finds the images that the account tells. -/
theorem Accounted.restart
    (accounted : gallery.Accounted settings)
    {course : Course}
    (restarted : gallery.course.restart = .ok course) :
    Accounted settings { gallery with course := course } := by
  obtain ⟨catalog, settled, -⟩ := accounted.standing
  rw [Course.restart, settled.configured] at restarted
  split at restarted
  · cases restarted
  · rename_i disk backup recovered
    cases restarted
    obtain ⟨after, settledNow⟩ := settled.recover rfl recovered
    obtain ⟨chapters, image, -, loaded, rfl, rfl⟩ :=
      settled.recover_eq rfl recovered
    obtain rfl := Option.some.inj settledNow.tailing
    have rooted : ∀ known ∈ image, known.root.Rooted := by
      cases isLast : gallery.course.backup.lastCheckpoint with
      | none =>
          rw [isLast] at loaded
          cases loaded
          exact fun _ isKnown => by cases isKnown
      | some info =>
          rw [isLast] at loaded
          exact Image.rooted_of_load loaded
    exact accounted.carry ⟨_, settledNow, Memory.rooted_tree _ rooted⟩
      (fun _ _ => rfl) rfl fun _ isSent => by cases isSent

/-- Every event leaves an account that is true. -/
theorem Accounted.step
    (accounted : gallery.Accounted settings)
    {event : Event}
    (words : event.Words)
    {next : Gallery}
    (stepped : gallery.step event = .ok next) :
    next.Accounted settings := by
  cases event with
  | deliver records =>
      cases stepped
      exact accounted.deliver words
  | write writing failures =>
      cases stepped
      exact accounted.write writing failures
  | begin failures =>
      cases stepped
      exact accounted.begin failures
  | finish milliseconds failures =>
      rw [Gallery.step] at stepped
      split at stepped
      · cases stepped
        exact accounted
      · rename_i shipment isUnderWay
        cases stepped
        cases saved : (shipment.info milliseconds).save
          (gallery.course.disk.failing failures)
          settings.checkpointInfoLocation with
        | mk disk answer =>
            cases answer with
            | error cause => exact accounted.finish_unsaved isUnderWay saved
            | ok done => exact accounted.finish_saved isUnderWay saved
  | giveUp =>
      cases stepped
      obtain ⟨catalog, settled, rooted⟩ := accounted.standing
      have dropped :
          ({ gallery.course with shipment := none } : Course).Settled settings
            catalog :=
        { settled with shipped := fun _ isSent => by cases isSent }
      exact accounted.carry ⟨catalog, dropped, rooted⟩ (fun _ _ => rfl) rfl
        fun _ isSent => by cases isSent
  | restart =>
      have carried : (gallery.course.restart.map fun after =>
          { gallery with course := after }) = .ok next := stepped
      cases restarted : gallery.course.restart with
      | error cause =>
          rw [restarted] at carried
          cases carried
      | ok course =>
          rw [restarted] at carried
          cases carried
          exact accounted.restart restarted

/-- The empty account of a Backup that has recovered from a fresh data directory
is true. -/
theorem accounted_of_fresh
    (fresh : disk.Fresh settings.home)
    {backup : Backup}
    (recovered : (new settings).recover disk = ⟨after, backup, .ok ()⟩)
    (direct : settings.Direct after Settings.imageNameLength) :
    Accounted settings ⟨⟨after, backup, none⟩, none, [], []⟩ := by
  obtain ⟨catalog, settled⟩ := Course.settled_of_fresh fresh recovered direct
  obtain ⟨made, vacant, rfl, rfl⟩ := Course.recover_of_fresh fresh recovered
  obtain rfl := Option.some.inj settled.tailing
  have empty :
      txids ⟨⟨Primary.started made settings, Backup.fresh settings, none⟩, none,
        [], []⟩ = [] := rfl
  refine ⟨⟨_, settled, Tree.rooted_root⟩,
    fun name => iff_of_false ?_ (by simp [empty]),
    fun _ isLast => (by cases isLast), fun _ isSent => by cases isSent⟩
  rintro ⟨isImage, there⟩
  have apart : name ≠ Settings.editsName := isImage.ne (by decide)
  have missing :=
    Primary.has_of_vacant vacant (isImage.ne (by decide))
      (isImage.ne (by decide))
  rw [Disk.has, Primary.item?_started made settings
    (Primary.append_ne_append apart settings.home)] at there
  exact Bool.false_ne_true (missing.symm.trans there)

/-- Whatever happens to a Backup that is started on a fresh data directory, its
account is true. -/
theorem accounted_start
    (fresh : disk.Fresh settings.home)
    (direct : ∀ after backup,
      (new settings).recover disk = ⟨after, backup, .ok ()⟩ →
      settings.Direct after Settings.imageNameLength)
    {events : List Event}
    (words : ∀ event ∈ events, event.Words)
    (started : start disk settings events = .ok gallery) :
    gallery.Accounted settings := by
  rw [start, Course.restart] at started
  simp only [show (new settings).settings = settings from rfl] at started
  split at started
  · cases started
  · rename_i after backup recovered
    exact foldlM_induction
      (fun event present _ _ accounted stepped =>
        accounted.step (words event present) stepped)
      (accounted_of_fresh fresh recovered (direct _ _ recovered)) started

/-! ## What is left -/

/-- A checkpoint that is finished was saved. -/
theorem saved_of_finishCheckpoint
    {backup : Backup}
    {disk : Disk}
    {now txid : Nat}
    (accepted : (backup.finishCheckpoint disk now txid).answer = .ok ()) :
    ∃ saved,
      Checkpoint.Info.save ⟨now, txid, Settings.backupImageName txid⟩ disk
        backup.settings.checkpointInfoLocation = (saved, .ok ()) := by
  simp only [finishCheckpoint] at accepted
  split at accepted
  · cases accepted
  · rename_i saved done
    exact ⟨saved, done⟩

/-- The image of a checkpoint that is saved is read back as the tree that was
there when the checkpoint began. -/
theorem Accounted.load_of_finish
    (accounted : gallery.Accounted settings)
    (isUnderWay : shipment ∈ gallery.course.shipment)
    (sendable : shipment.content.length ≤ Word.max)
    {saved : Disk}
    (done : (shipment.info milliseconds).save
      (gallery.course.disk.failing failures) settings.checkpointInfoLocation =
      (saved, .ok ())) :
    ∃ tree ∈ gallery.subject,
      Image.load (gallery.course.finish shipment milliseconds failures).disk
        (settings.backupImageLocation shipment.txid) =
        .ok (some ⟨shipment.txid, tree⟩) := by
  obtain ⟨catalog, settled, -⟩ := accounted.standing
  obtain ⟨-, tree, isSubject, pictures⟩ := accounted.shipped shipment isUnderWay
  have image := accounted.item?_image_of_finish isUnderWay done
    (Settings.namesImage_backupImageName shipment.txid)
  have kept : ¬ ∃ known ∈
      dropped settings saved gallery.course.backup.lastCheckpoint
        (Settings.backupImageName shipment.txid),
        known.imageFile = Settings.backupImageName shipment.txid := by
    rintro ⟨known, isDropped, same⟩
    exact accounted.other_image isUnderWay known (mem_dropped.mp isDropped).1
      same
  rw [if_neg kept] at image
  have size := Image.size_le_length_encode shipment.txid tree
  rw [← pictures.content] at size
  have decoded := Image.decode_encode (settled.shipped shipment isUnderWay)
    pictures.rooted.wellFormed pictures.rooted.isDirectory
    pictures.rooted.isRoot (Nat.le_trans size sendable)
  rw [← pictures.content] at decoded
  exact ⟨tree, isSubject,
    Image.load_of_decode (image.trans pictures.held) decoded⟩

/-- When a checkpoint is finished, on whatever way a Backup came to it from a
fresh data directory, the checkpoint that is loaded is this one, and its image
holds the tree that was there when it began. What other images are left are
those of attempts that came to nothing behind the writing, and those that could
not be deleted. -/
theorem start_accounts
    (fresh : disk.Fresh settings.home)
    (direct : ∀ after backup,
      (new settings).recover disk = ⟨after, backup, .ok ()⟩ →
      settings.Direct after Settings.imageNameLength)
    {events : List Event}
    (words : ∀ event ∈ events, event.Words)
    (started : start disk settings events = .ok gallery)
    (isUnderWay : gallery.course.shipment = some shipment)
    (sendable : shipment.content.length ≤ Word.max)
    (accepted : (gallery.course.backup.finishCheckpoint
      (gallery.course.disk.failing failures) (stamp milliseconds)
      shipment.txid).answer = .ok ()) :
    let finished := gallery.finish shipment milliseconds failures
    let info := shipment.info milliseconds
    Course.start disk settings (events ++ [.finish milliseconds failures]) =
      .ok finished.course ∧
      Checkpoint.Info.load finished.course.disk
        settings.checkpointInfoLocation =
        .ok (some info) ∧
      (∃ tree ∈ gallery.subject, Image.load finished.course.disk
        (settings.resolve finished.course.disk info.imageFile) =
          .ok (some ⟨shipment.txid, tree⟩)) ∧
      (∀ name, HasImage settings finished.course.disk name ↔
        name = info.imageFile ∨ ∃ txid ∈ finished.strays ++ finished.spared,
          name = Settings.backupImageName txid) ∧
      ((∀ name, HasImage settings finished.course.disk name →
        name = info.imageFile) ↔
        finished.strays = [] ∧ finished.spared = []) := by
  intro finished info
  have accounted := accounted_start fresh direct words started
  obtain ⟨catalog, settled, -⟩ := accounted.standing
  obtain ⟨saved, done⟩ := saved_of_finishCheckpoint accepted
  rw [settled.configured] at done
  have last : finished.course.backup.lastCheckpoint = some info := by
    rw [course_finish]
    exact (finishCheckpoint_of_saved settled.tailing
      (settled.configured.symm ▸ done)).1
  have accountedNow : finished.Accounted settings :=
    accounted.finish_saved isUnderWay done
  obtain ⟨after, settledNow, -⟩ := accountedNow.standing
  have images (name : String) : HasImage settings finished.course.disk name ↔
      name = info.imageFile ∨ ∃ txid ∈ finished.strays ++ finished.spared,
        name = Settings.backupImageName txid := by
    rw [accountedNow.images]
    simp [mem_txids, last, or_and_right, exists_or]
    rfl
  refine ⟨?_, ?_, ?_, images, ?_⟩
  · have erased := course_start disk settings events
    rw [started] at erased
    rw [Course.start_append, ← erased]
    show gallery.course.step (.finish milliseconds failures) =
      .ok finished.course
    simp only [Course.step, isUnderWay]
    rw [course_finish]
  · have booked := settledNow.remembers.kept.load
    rwa [last] at booked
  · rw [show info.imageFile = Settings.backupImageName shipment.txid from rfl,
      settledNow.remembers.direct.resolve_backupImageName
        (settled.shipped shipment isUnderWay), course_finish]
    exact accounted.load_of_finish isUnderWay sendable done
  · obtain ⟨notStray, notSpared⟩ := accountedNow.apart info last
    rw [← List.append_eq_nil_iff]
    constructor
    · intro alone
      refine List.eq_nil_iff_forall_not_mem.mpr fun txid present => ?_
      have same := alone _ ((images _).mpr (.inr ⟨txid, present, rfl⟩))
      obtain rfl : txid = info.txid := Settings.backupImageName_injective same
      exact (List.mem_append.mp present).elim notStray notSpared
    · intro nothing name there
      simpa [nothing] using (images name).mp there

/-- What is told as an option went through. -/
theorem ok_of_toOption
    {Cause Value : Type}
    {outcome : Except Cause Value}
    {value : Value}
    (told : outcome.toOption = some value) :
    outcome = .ok value := by
  cases outcome with
  | error cause => cases told
  | ok other => rw [Option.some.inj told]

/-- After a checkpoint an attempt is given up, the Backup starts anew, and
another attempt begins at the transaction id of the one that was given up. -/
def retriedEvents : List Event :=
  [.deliver [⟨1, .makeDirectory "/a"⟩], .write .roll fun _ => none,
    .begin fun _ => none, .finish 1000 fun _ => none,
    .deliver [⟨2, .createFile "/a/b"⟩], .begin fun _ => none, .giveUp, .restart,
    .deliver [⟨2, .createFile "/a/b"⟩], .begin fun _ => none]

/-- Once the second attempt is finished its image is the only one. -/
theorem start_accounts_retried :
    ∃ gallery shipment,
      start Disk.empty (Settings.ofDirectory ".") retriedEvents = .ok gallery ∧
      gallery.course.shipment = some shipment ∧
      ∀ name, HasImage (Settings.ofDirectory ".")
        (gallery.finish shipment 2000 fun _ => none).course.disk name →
          name = Settings.backupImageName shipment.txid := by
  have outcome : (start Disk.empty (Settings.ofDirectory ".")
      retriedEvents).toOption.bind
      (fun gallery => gallery.course.shipment.map fun shipment =>
        (decide (shipment.content.length ≤ Word.max),
          (gallery.course.backup.finishCheckpoint
            (gallery.course.disk.failing fun _ => none) (stamp 2000)
            shipment.txid).answer.toOption,
          (gallery.finish shipment 2000 fun _ => none).strays,
          (gallery.finish shipment 2000 fun _ => none).spared)) =
      some (true, some (), [], []) := by decide +kernel
  obtain ⟨gallery, started, outcome⟩ := Option.bind_eq_some_iff.mp outcome
  obtain ⟨shipment, isUnderWay, outcome⟩ := Option.map_eq_some_iff.mp outcome
  simp only [Prod.mk.injEq, decide_eq_true_eq] at outcome
  obtain ⟨sendable, accepted, noStrays, noneSpared⟩ := outcome
  have fresh : Disk.empty.Fresh (Settings.ofDirectory ".").home :=
    Disk.vacant_empty.fresh fun _ => rfl
  have stands (disk : Disk) : disk.Stands (Settings.ofDirectory ".").home := by
    intro place present
    obtain rfl : place = [] := List.mem_singleton.mp present
    rfl
  have ran := ok_of_toOption started
  have answered := ok_of_toOption accepted
  obtain ⟨-, -, -, -, alone⟩ := start_accounts fresh
    (fun _ _ _ => Settings.direct_of_noUp (stands _) (by decide) (by decide))
    (by simp [retriedEvents, Event.Words, Word.max]) ran isUnderWay sendable
      answered
  exact ⟨gallery, shipment, ran, isUnderWay, alone.mpr ⟨noStrays, noneSpared⟩⟩

/-- An attempt is given up, and another one begins behind one more record. -/
def refusedEvents : List Event :=
  [.deliver [⟨1, .makeDirectory "/a"⟩], .begin fun _ => none, .giveUp,
    .deliver [⟨2, .makeDirectory "/b"⟩], .begin fun _ => none]

/-- Once the second attempt is finished the image of the first one is still
there, though nothing failed that was to be deleted. -/
theorem start_accounts_refused :
    ∃ gallery shipment,
      start Disk.empty (Settings.ofDirectory ".") refusedEvents = .ok gallery ∧
      gallery.course.shipment = some shipment ∧
      (gallery.course.backup.finishCheckpoint
        (gallery.course.disk.failing fun _ => none) (stamp 2000)
        shipment.txid).answer = .ok () ∧
      (gallery.finish shipment 2000 fun _ => none).spared = [] ∧
      Settings.backupImageName 1 ≠ Settings.backupImageName 2 ∧
      HasImage (Settings.ofDirectory ".")
        (gallery.finish shipment 2000 fun _ => none).course.disk
        (Settings.backupImageName 1) ∧
      HasImage (Settings.ofDirectory ".")
        (gallery.finish shipment 2000 fun _ => none).course.disk
        (Settings.backupImageName 2) := by
  have outcome : (start Disk.empty (Settings.ofDirectory ".")
      refusedEvents).toOption.bind
      (fun gallery => gallery.course.shipment.map fun shipment =>
        ((gallery.course.backup.finishCheckpoint
          (gallery.course.disk.failing fun _ => none) (stamp 2000)
          shipment.txid).answer.toOption,
          (gallery.finish shipment 2000 fun _ => none).spared,
          [1, 2].map fun txid =>
            (gallery.finish shipment 2000 fun _ => none).course.disk.has
              [Settings.backupImageName txid])) =
      some (some (), [], [true, true]) := by decide +kernel
  obtain ⟨gallery, started, outcome⟩ := Option.bind_eq_some_iff.mp outcome
  obtain ⟨shipment, isUnderWay, outcome⟩ := Option.map_eq_some_iff.mp outcome
  simp only [Prod.mk.injEq, List.map_cons, List.map_nil, List.cons.injEq,
    and_true] at outcome
  obtain ⟨accepted, noneSpared, first, second⟩ := outcome
  exact ⟨gallery, shipment, ok_of_toOption started, isUnderWay,
    ok_of_toOption accepted, noneSpared,
    fun same => absurd (Settings.backupImageName_injective same) (by decide),
    ⟨Settings.namesImage_backupImageName 1, first⟩,
    ⟨Settings.namesImage_backupImageName 2, second⟩⟩

end Gallery
end Backup
end NameService
