import NameService.Proofs.Catalog.Delivery
import NameService.Proofs.Primary.Course

/-!
# Checkpoints of several Backups

A checkpoint is a snapshot, an upload and, once that is acknowledged, a report.
The messages of several Backups may arrive in any order. The Primary compares an
upload with the checkpoint id that it has persisted, and a report with its log,
but neither with the image that it has stored. So an older image may be stored
before a newer checkpoint id is put in force. This is the only way for the image
to fall behind the checkpoint, and the next image that is acknowledged makes up
for it.
-/

namespace NameService

namespace Backup

/-- The image of the tree after so many mutations of a history. -/
def Shipment.ofHistory (history : List Operation) (count : Nat) : Shipment :=
  ⟨count, Image.encode count (Tree.ofHistory history count)⟩

/-- An image of the tree after the first mutations of a history. -/
structure Shipment.Pictures
    (shipment : Shipment)
    (history : List Operation) : Prop where
  bounded : shipment.txid ≤ history.length
  whole : shipment = .ofHistory history shipment.txid
  /-- Its length can be sent. -/
  fits : shipment.content.length ≤ Word.max

variable {shipment : Shipment} {history : List Operation}

/-- A picture of a history is one of what the history becomes. -/
theorem Shipment.Pictures.append
    (pictures : shipment.Pictures history)
    (more : List Operation) :
    shipment.Pictures (history ++ more) := by
  refine ⟨Nat.le_trans pictures.bounded (by simp), ?_, pictures.fits⟩
  rw [Shipment.ofHistory, Tree.ofHistory_append history more pictures.bounded]
  exact pictures.whole

/-- A picture is read as the tree that it was taken of. -/
theorem Shipment.Pictures.decode
    (pictures : shipment.Pictures history)
    (word : history.length ≤ Word.max) :
    Image.decode shipment.content =
      .ok ⟨shipment.txid, Tree.ofHistory history shipment.txid⟩ := by
  have fits := pictures.fits
  have content : shipment.content =
      Image.encode shipment.txid (Tree.ofHistory history shipment.txid) :=
    congrArg Shipment.content pictures.whole
  rw [content] at fits ⊢
  exact Image.decode_encode (Nat.le_trans pictures.bounded word)
    (Tree.wellFormed_ofHistory history shipment.txid) (Tree.kind_ofHistory _ _)
    (Tree.name_ofHistory _ _)
      (Nat.le_trans (Image.size_le_length_encode shipment.txid _) fits)

/-- What a Backup that mirrors a history ships is an image of the history. -/
theorem beginCheckpoint_of_mirrors
    {backup : Backup}
    {catalog : Catalog}
    (isCatalog : backup.catalog = some catalog)
    (mirrors : catalog.Mirrors history)
    {disk after : Disk}
    (begun : backup.beginCheckpoint disk = (after, .ok (some shipment))) :
    shipment = .ofHistory history catalog.appliedTxid := by
  simp only [beginCheckpoint, isCatalog] at begun
  split at begun
  · cases begun
  · generalize disk.replace _ _ = written at begun
    obtain ⟨written, answer⟩ := written
    cases answer with
    | error cause => cases begun
    | ok _ =>
        cases begun
        rw [Shipment.ofHistory, ← mirrors.tree]
        rfl

end Backup

namespace Primary

variable {settings : Settings} {disk : Disk} {history : List Operation}
  {checkpointTxid : Nat}

/-- A save that fails leaves the data directory as it stands. -/
theorem Housed.save_error
    (housed : Housed settings disk checkpointTxid)
    {after : Disk}
    {txid : Nat}
    {error : FileError}
    (failed : settings.checkpointStore.save disk txid = (after, .error error)) :
    Housed settings after checkpointTxid ∧
      after.item? settings.imageLocation =
        disk.item? settings.imageLocation := by
  apply housed.save failed
  rw [Checkpoint.Store.Keeps,
    Disk.item?_of_replace_error failed (checkpoint_ne_scratch settings)]
  exact housed.checkpoint

/-- The image of a data directory is the picture that was stored last, if one
was. -/
def Shows (settings : Settings) (disk : Disk) (history : List Operation) :
    Option Nat → Prop
  | none => disk.item? settings.imageLocation = none
  | some txid =>
      ∃ content, disk.item? settings.imageLocation = some (.file content) ∧
      Backup.Shipment.Pictures ⟨txid, content⟩ history

/-- The image is shown as long as its file is left alone. -/
theorem Shows.frame
    {stored : Option Nat}
    (isShown : Shows settings disk history stored)
    {after : Disk}
    (same : after.item? settings.imageLocation =
      disk.item? settings.imageLocation) :
    Shows settings after history stored := by
  cases stored with
  | none => exact same.trans isShown
  | some txid =>
      obtain ⟨content, held, pictures⟩ := isShown
      exact ⟨content, same.trans held, pictures⟩

theorem Shows.append
    {stored : Option Nat}
    (isShown : Shows settings disk history stored)
    (more : List Operation) :
    Shows settings disk (history ++ more) stored := by
  cases stored with
  | none => exact isShown
  | some txid =>
      obtain ⟨content, held, pictures⟩ := isShown
      exact ⟨content, held, pictures.append more⟩

/-- The image that is shown is loaded. -/
theorem Shows.load
    {stored : Option Nat}
    (isShown : Shows settings disk history stored)
    (word : history.length ≤ Word.max) :
    Image.load disk settings.imageLocation =
      .ok (stored.map fun txid => ⟨txid, Tree.ofHistory history txid⟩) := by
  cases stored with
  | none =>
      have missing : disk.item? settings.imageLocation = none := isShown
      have absent : disk.has settings.imageLocation = false := by
        simp [Disk.has, missing]
      rw [Image.load, absent]
      rfl
  | some txid =>
      obtain ⟨content, held, pictures⟩ := isShown
      have present : disk.has settings.imageLocation = true := by
        simp [Disk.has, held]
      simp [Image.load, present, Disk.read, held, pictures.decode word]

end Primary

namespace Cluster

/-- Where the checkpoint of a Backup stands. -/
inductive Phase
  /-- No message is on its way. -/
  | idle
  /-- An image was taken and is to be uploaded. -/
  | shipping (shipment : Backup.Shipment)
  /-- The upload was acknowledged, and the id is to be reported. -/
  | acknowledged (txid : Nat)

/-- A Primary and the Backups that take checkpoints of it. -/
structure Exchange where
  course : Primary.Course
  phases : Nat → Phase
  /-- The transaction id of the image that was acknowledged last. -/
  stored : Option Nat
  /-- Whether an id was put in force that the image acknowledged last did not
  reach, and no image was acknowledged since. -/
  overtaken : Bool

namespace Exchange

/-- What happens between a Primary and the Backups that take checkpoints of
it. -/
inductive Event
  /-- A client asks the Primary for a mutation. -/
  | mutate (operation : Operation)
  /-- The Primary rolls its log. -/
  | roll (failures : Nat → Option Disk.Failure)
  /-- The Primary flushes everything. -/
  | forceSync (failures : Nat → Option Disk.Failure)
  /-- A Backup that has applied so many mutations takes an image. -/
  | snapshot (who count : Nat)
  /-- The image of a Backup arrives. -/
  | upload (who : Nat) (failures : Nat → Option Disk.Failure)
  /-- The report of a Backup arrives. -/
  | report (who : Nat) (failures : Nat → Option Disk.Failure)

/-- A Backup goes on to another phase. -/
def enter (exchange : Exchange) (who : Nat) (phase : Phase) : Exchange :=
  { exchange with
    phases :=
      fun other => if other = who then phase else exchange.phases other }

/-- An image arrives at the Primary. -/
def upload
    (exchange : Exchange)
    (who : Nat)
    (shipment : Backup.Shipment)
    (failures : Nat → Option Disk.Failure) : Exchange :=
  let sent :=
    Remote.uploadImage shipment.content (exchange.course.disk.failing failures)
      (some exchange.course.primary)
  let exchange :=
    { exchange with
      course := { exchange.course with disk := sent.disk.mended } }
  match sent.answer with
  | .error _ => exchange.enter who .idle
  | .ok () =>
      { exchange.enter who (.acknowledged shipment.txid) with
        stored := some shipment.txid
        overtaken := false }

/-- A report arrives at the Primary. -/
def report
    (exchange : Exchange)
    (who txid : Nat)
    (failures : Nat → Option Disk.Failure) : Exchange :=
  let reported :=
    Remote.updateCheckpoint txid (exchange.course.disk.failing failures)
      exchange.course.primary
  { exchange.enter who .idle with
    course :=
      { exchange.course with
        disk := reported.disk.mended, primary := reported.state }
    overtaken := exchange.overtaken ||
      decide (exchange.course.primary.checkpointTxid <
        reported.state.checkpointTxid ∧
        exchange.stored.getD 0 < reported.state.checkpointTxid) }

/-- What an exchange is after one more event. An image is only taken of what was
applied, and if its length is a word. -/
def step (exchange : Exchange) : Event → Except ServiceError Exchange
  | .mutate operation =>
      (exchange.course.step (.mutate operation)).map fun course =>
        { exchange with course := course }
  | .roll failures =>
      (exchange.course.step (.roll failures)).map fun course =>
        { exchange with course := course }
  | .forceSync failures =>
      (exchange.course.step (.forceSync failures)).map fun course =>
        { exchange with course := course }
  | .snapshot who count =>
      let shipment := Backup.Shipment.ofHistory exchange.course.history count
      if count ≤ exchange.course.primary.catalog.appliedTxid ∧
          shipment.content.length ≤ Word.max then
        .ok (exchange.enter who (.shipping shipment))
      else .ok exchange
  | .upload who failures =>
      match exchange.phases who with
      | .shipping shipment => .ok (exchange.upload who shipment failures)
      | _ => .ok exchange
  | .report who failures =>
      match exchange.phases who with
      | .acknowledged txid => .ok (exchange.report who txid failures)
      | _ => .ok exchange

/-- What an exchange is after a run of events. -/
def run (exchange : Exchange) (events : List Event) :
    Except ServiceError Exchange :=
  events.foldlM step exchange

/-- Start a Primary, and let a run of events happen to it and to its Backups. -/
def start (disk : Disk) (settings : Settings) (events : List Event) :
    Except ServiceError Exchange :=
  match Primary.openAt disk settings with
  | (_, .error cause) => .error cause
  | (disk, .ok primary) =>
      run ⟨⟨disk, primary, []⟩, fun _ => .idle, none, false⟩ events

/-! ## The invariant -/

/-- The data directory stands with the image that was acknowledged last, and
every image on its way is one of the history. -/
structure Standing (settings : Settings) (exchange : Exchange) : Prop where
  configured : exchange.course.primary.settings = settings
  directory : exchange.course.primary.catalog.log.directory =
    settings.editsLocation
  whole : exchange.course.primary.catalog.appliedTxid =
    exchange.course.history.length
  housed :
    Primary.Housed settings exchange.course.disk
      exchange.course.primary.checkpointTxid
  bounded : exchange.course.primary.checkpointTxid ≤
    exchange.course.history.length
  image :
    Primary.Shows settings exchange.course.disk exchange.course.history
      exchange.stored
  shipped : ∀ who shipment, exchange.phases who = .shipping shipment →
    shipment.Pictures exchange.course.history
  /-- The image falls behind the checkpoint when it is overtaken, and only
  then. -/
  behind : exchange.overtaken = true ↔
    exchange.stored.getD 0 < exchange.course.primary.checkpointTxid

variable {settings : Settings} {exchange : Exchange}

/-- A mutation goes on with the history if it is logged. -/
theorem Standing.mutate
    (standing : exchange.Standing settings)
    (room : exchange.course.history.length < Word.max)
    (operation : Operation) :
    ∃ after, exchange.step (.mutate operation) = .ok after ∧
      after.Standing settings ∧
      after.course.history.length ≤ exchange.course.history.length + 1 := by
  refine ⟨_, rfl, ?_⟩
  rw [Primary.mutate_eq]
  rcases Catalog.mutate_cases exchange.course.primary.catalog operation with
    same | ⟨tree, made, applied, logged⟩
  · simp only [same, Nat.lt_irrefl, if_false]
    exact ⟨standing, Nat.le_succ _⟩
  · have next :
        (exchange.course.primary.catalog.log.append operation).1.lastTxid =
        exchange.course.primary.catalog.appliedTxid + 1 :=
      Log.lastTxid_append
        (Nat.lt_of_le_of_lt (Nat.le_of_eq standing.whole) room) operation
    have grows : exchange.course.primary.catalog.appliedTxid <
        (exchange.course.primary.catalog.mutate operation).1.appliedTxid := by
      rw [logged]
      exact Nat.lt_of_lt_of_eq (Nat.lt_succ_self _) next.symm
    simp only [if_pos grows]
    rw [logged]
    refine ⟨⟨standing.configured, standing.directory, ?_, standing.housed, ?_,
      standing.image.append [operation], ?_, standing.behind⟩, by simp⟩
    · rw [List.length_append, ← standing.whole]
      exact next
    · rw [List.length_append]
      exact Nat.le_add_right_of_le standing.bounded
    · intro who shipment isShipping
      exact (standing.shipped who shipment isShipping).append [operation]

/-- An operation that keeps up the log leaves the rest of the data directory. -/
theorem Standing.withLog
    (standing : exchange.Standing settings)
    (failures : Nat → Option Disk.Failure)
    {operate : Log → Disk → Outcome Log LogError (Option Span)}
    (frames : ∀ (log : Log) (disk : Disk) (place : Location),
      Log.Outside log.directory place →
      (operate log disk).disk.item? place = disk.item? place)
    (same : ∀ log disk, (operate log disk).state.lastTxid = log.lastTxid ∧
      (operate log disk).state.directory = log.directory) :
    ({ exchange with
      course := exchange.course.withLog failures operate }).Standing
      settings := by
  have frame :=
    frames exchange.course.primary.catalog.log
      (exchange.course.disk.failing failures)
  rw [standing.directory] at frame
  obtain ⟨sameTxid, sameDirectory⟩ :=
    same exchange.course.primary.catalog.log
      (exchange.course.disk.failing failures)
  refine ⟨standing.configured, sameDirectory.trans standing.directory,
    sameTxid.trans standing.whole, ?_, standing.bounded, ?_, standing.shipped,
    standing.behind⟩
  · exact ((standing.housed.failing failures).frame frame).failing _
  · exact standing.image.frame
      (Primary.item?_home_of_frame frame Settings.imageName)

/-- A Backup goes on to a phase in which it ships an image of the history, if it
ships one. -/
theorem Standing.enter
    (standing : exchange.Standing settings)
    (who : Nat)
    {phase : Phase}
    (ships : ∀ shipment, phase = .shipping shipment →
      shipment.Pictures exchange.course.history) :
    (exchange.enter who phase).Standing settings := by
  refine { standing with shipped := fun other shipment isShipping => ?_ }
  simp only [Exchange.enter] at isShipping
  split at isShipping
  · exact ships shipment isShipping
  · exact standing.shipped other shipment isShipping

/-- A Backup that goes idle, or waits to report, ships nothing. -/
theorem Standing.idle (standing : exchange.Standing settings) (who : Nat) :
    (exchange.enter who .idle).Standing settings := by
  apply standing.enter who
  intro shipment isShipping
  cases isShipping

theorem Standing.acknowledged
    (standing : exchange.Standing settings)
    (who txid : Nat) :
    (exchange.enter who (.acknowledged txid)).Standing settings := by
  apply standing.enter who
  intro shipment isShipping
  cases isShipping

/-- An exchange stands on another disk that shows the same image. -/
theorem Standing.on
    (standing : exchange.Standing settings)
    {disk : Disk}
    (housed :
      Primary.Housed settings disk exchange.course.primary.checkpointTxid)
    (same : disk.item? settings.imageLocation =
      exchange.course.disk.item? settings.imageLocation) :
    ({ exchange with
      course := { exchange.course with disk := disk.mended } }).Standing
      settings :=
  { standing with
    housed := housed.failing _
    image := standing.image.frame same }

/-- An image that reaches the checkpoint is not overtaken when it is stored. -/
theorem Standing.store
    (standing : exchange.Standing settings)
    {disk : Disk}
    (housed :
      Primary.Housed settings disk exchange.course.primary.checkpointTxid)
    {shipment : Backup.Shipment}
    (pictures : shipment.Pictures exchange.course.history)
    (held : disk.item? settings.imageLocation = some (.file shipment.content))
    (reaches : exchange.course.primary.checkpointTxid ≤ shipment.txid) :
    ({ exchange with
      course := { exchange.course with disk := disk.mended }
      stored := some shipment.txid
      overtaken := false }).Standing settings :=
  { standing with
    housed := housed.failing _
    image := ⟨_, held, pictures⟩
    behind := iff_of_false Bool.false_ne_true (Nat.not_lt.mpr reaches) }

/-- An image that is acknowledged becomes the stored one, and it reaches the
checkpoint. -/
theorem Standing.upload
    (standing : exchange.Standing settings)
    (word : exchange.course.history.length ≤ Word.max)
    (who : Nat)
    {shipment : Backup.Shipment}
    (pictures : shipment.Pictures exchange.course.history)
    (failures : Nat → Option Disk.Failure) :
    (exchange.upload who shipment failures).Standing settings := by
  have housed := standing.housed.failing failures
  have outcome :=
    Remote.uploadImage_cases pictures.fits
      (exchange.course.disk.failing failures) exchange.course.primary
  rw [standing.configured] at outcome
  unfold Exchange.upload
  generalize Remote.uploadImage _ _ _ = sent at outcome ⊢
  rcases outcome with
    ⟨answer, ⟨txid, checked⟩, replaced⟩ | ⟨⟨cause, answer⟩, left⟩
  · simp only [answer]
    have loaded := housed.checkpoint.load (Nat.le_trans standing.bounded word)
    have held := Disk.item?_replaced replaced
    have reaches : exchange.course.primary.checkpointTxid ≤ shipment.txid :=
      Upload.floor_le_of_check (pictures.decode word) loaded checked
    have stored :=
      standing.store (housed.replace_image replaced) pictures held reaches
    exact stored.acknowledged who shipment.txid
  · simp only [answer]
    apply Standing.idle
    rcases left with same | ⟨error, failed⟩
    · rw [same]
      exact standing.on housed rfl
    · exact standing.on (housed.replace_image failed)
        (Disk.item?_of_replace_error failed (Primary.image_ne_scratch settings))

/-- A Primary that puts an id of its history in force, or leaves the one that it
has, goes on standing. -/
theorem Standing.put_in_force
    (standing : exchange.Standing settings)
    (who : Nat)
    {disk : Disk}
    {primary : Primary}
    (configured : primary.settings = settings)
    (directory : primary.catalog.log.directory = settings.editsLocation)
    (whole : primary.catalog.appliedTxid = exchange.course.history.length)
    (housed : Primary.Housed settings disk primary.checkpointTxid)
    (bounded : primary.checkpointTxid ≤ exchange.course.history.length)
    (forward : exchange.course.primary.checkpointTxid ≤ primary.checkpointTxid)
    (sameImage : disk.item? settings.imageLocation =
      exchange.course.disk.item? settings.imageLocation) :
    ({ exchange.enter who .idle with
      course := { exchange.course with disk := disk.mended, primary := primary }
      overtaken := exchange.overtaken ||
        decide (exchange.course.primary.checkpointTxid <
          primary.checkpointTxid ∧
          exchange.stored.getD 0 < primary.checkpointTxid) }).Standing
      settings := by
  refine ⟨configured, directory, whole, housed.failing _, bounded,
    standing.image.frame sameImage, (standing.idle who).shipped, ?_⟩
  simp only [Bool.or_eq_true, standing.behind, decide_eq_true_eq,
    Exchange.enter]
  omega

theorem history_upload
    (exchange : Exchange)
    (who : Nat)
    (shipment : Backup.Shipment)
    (failures : Nat → Option Disk.Failure) :
    (exchange.upload who shipment failures).course.history =
      exchange.course.history := by
  unfold Exchange.upload
  simp only
  split <;> rfl

/-- A report puts an id of the history in force, or it leaves the one that
is. -/
theorem Standing.report
    (standing : exchange.Standing settings)
    (who txid : Nat)
    (failures : Nat → Option Disk.Failure) :
    (exchange.report who txid failures).Standing settings := by
  have housed := standing.housed.failing failures
  have outcome := exchange.course.primary.updateCheckpoint_cases
    (exchange.course.disk.failing failures) txid
  simp only [standing.configured] at outcome
  unfold Exchange.report Remote.updateCheckpoint
  simp only
  rcases outcome with ⟨disk, state⟩ | ⟨state, error, failed⟩ |
    ⟨above, within, saved, isSaved, inForce⟩
  · rw [disk, state]
    exact standing.put_in_force who standing.configured standing.directory
      standing.whole housed standing.bounded (Nat.le_refl _) rfl
  · obtain ⟨stillHoused, sameImage⟩ := housed.save_error failed
    rw [state]
    exact standing.put_in_force who standing.configured standing.directory
      standing.whole stillHoused standing.bounded (Nat.le_refl _) sameImage
  · obtain ⟨savedHoused, sameImage⟩ :=
      housed.save isSaved (Checkpoint.Store.keeps_of_save isSaved)
    have bounded : txid ≤ exchange.course.history.length :=
      standing.whole ▸ within
    rcases inForce with ⟨disk, state⟩ | ⟨disk, state⟩
    · rw [disk, state]
      exact standing.put_in_force who rfl standing.directory standing.whole
        savedHoused bounded (Nat.le_of_lt above) sameImage
    · have frame : ∀ place, Log.Outside settings.editsLocation place →
          (exchange.course.primary.catalog.log.purgeThrough saved
            txid).disk.item? place =
            saved.item? place := fun place outside =>
        Log.item?_purgeThrough _ _ _ (standing.directory ▸ outside)
      rw [disk, state]
      exact standing.put_in_force who rfl standing.directory standing.whole
        (savedHoused.frame frame) bounded (Nat.le_of_lt above)
        ((Primary.item?_home_of_frame frame Settings.imageName).trans sameImage)

/-- A Backup takes an image of a part of the history. -/
theorem Standing.snapshot
    (standing : exchange.Standing settings)
    (who count : Nat) :
    ∃ after, exchange.step (.snapshot who count) = .ok after ∧
      after.Standing settings ∧
      after.course.history = exchange.course.history := by
  rw [Exchange.step]
  split
  · rename_i allowed
    refine ⟨_, rfl, standing.enter who fun shipment isShipping => ?_, rfl⟩
    injection isShipping with same
    subst same
    exact ⟨standing.whole ▸ allowed.1, rfl, allowed.2⟩
  · exact ⟨exchange, rfl, standing, rfl⟩

/-- Every event goes through and keeps the exchange standing. -/
theorem Standing.step
    (standing : exchange.Standing settings)
    (room : exchange.course.history.length < Word.max)
    (event : Event) :
    ∃ after, exchange.step event = .ok after ∧ after.Standing settings ∧
      after.course.history.length ≤ exchange.course.history.length + 1 := by
  cases event with
  | mutate operation => exact standing.mutate room operation
  | roll failures =>
      refine ⟨_, rfl,
        standing.withLog failures (fun log disk _ => Log.item?_roll log disk)
          ?_,
        Nat.le_succ _⟩
      exact fun log disk => log.keepUp_same disk .roll
  | forceSync failures =>
      refine ⟨_, rfl,
        standing.withLog failures
          (fun log disk _ => Log.item?_forceSync log disk) ?_,
        Nat.le_succ _⟩
      exact fun log disk => log.keepUp_same disk .forceSync
  | snapshot who count =>
      obtain ⟨after, stepped, stillStanding, history⟩ :=
        standing.snapshot who count
      exact ⟨after, stepped, stillStanding, history ▸ Nat.le_succ _⟩
  | upload who failures =>
      rw [Exchange.step]
      split
      · rename_i shipment isShipping
        refine ⟨_, rfl,
          standing.upload (Nat.le_of_lt room) who
            (standing.shipped who shipment isShipping) failures, ?_⟩
        rw [history_upload]
        exact Nat.le_succ _
      · exact ⟨exchange, rfl, standing, Nat.le_succ _⟩
  | report who failures =>
      rw [Exchange.step]
      split
      · rename_i txid _
        exact ⟨_, rfl, standing.report who txid failures, Nat.le_succ _⟩
      · exact ⟨exchange, rfl, standing, Nat.le_succ _⟩

/-- Every run of events goes through and keeps the exchange standing. -/
theorem Standing.run
    (standing : exchange.Standing settings)
    (events : List Event)
    (word : exchange.course.history.length + events.length ≤ Word.max) :
    ∃ after, exchange.run events = .ok after ∧ after.Standing settings ∧
      after.course.history.length ≤
        exchange.course.history.length + events.length :=
  foldlM_of_steps Standing.step standing events word

/-- A Primary on an empty data directory has stored no image. -/
theorem standing_start
    {disk : Disk}
    (reliable : disk.Reliable)
    (vacant : disk.Vacant settings.home) :
    Standing settings
      ⟨⟨Primary.started disk settings, Primary.recovered settings [] [] 0 0,
        []⟩,
      fun _ => .idle, none, false⟩ := by
  have sustained := Primary.sustained_start reliable vacant
  have other : Settings.imageName ≠ Settings.editsName := by decide
  have missing : (Primary.started disk settings).item? settings.imageLocation =
      none := by
    rw [Settings.imageLocation,
      Primary.item?_started disk settings
        (Primary.append_ne_append other settings.home)]
    exact vacant.empty [Settings.imageName] (by simp) (by decide)
  refine ⟨rfl, rfl, rfl, sustained.stored.toHoused, Nat.le_refl 0, missing, ?_,
    iff_of_false Bool.false_ne_true (Nat.lt_irrefl 0)⟩
  intro who shipment isShipping
  cases isShipping

/-! ## Covering -/

/-- The image that a Primary has stored reaches its checkpoint: it loads as the
tree of the history at an id that is not below the checkpoint. -/
def Covers (exchange : Exchange) (settings : Settings) : Prop :=
  0 < exchange.course.primary.checkpointTxid →
    ∃ image,
      Image.load exchange.course.disk settings.imageLocation =
        .ok (some image) ∧
      exchange.course.primary.checkpointTxid ≤ image.txid ∧
      image.root = Tree.ofHistory exchange.course.history image.txid

/-- The stored image covers the checkpoint unless it was overtaken. -/
theorem Standing.covers_iff
    (standing : exchange.Standing settings)
    (word : exchange.course.history.length ≤ Word.max) :
    exchange.Covers settings ↔ exchange.overtaken = false := by
  have loaded := standing.image.load word
  have behind := standing.behind
  rw [← Bool.not_eq_true, behind, Nat.not_lt, Covers, loaded]
  cases exchange.stored with
  | none => simp
  | some txid =>
      simp only [Option.map_some, Except.ok.injEq, Option.some.injEq,
        Option.getD_some]
      constructor
      · intro covers
        by_contra below
        obtain ⟨image, rfl, reached, -⟩ := covers (by omega)
        exact below reached
      · exact fun reached _ => ⟨_, rfl, reached, rfl⟩

/-- Whatever arrives at a Primary that is started on an empty data directory,
from whichever of its Backups and in whichever order, and whichever steps of its
writes fail, it goes through, and the image that is stored covers the checkpoint
exactly when no id was put in force, since an image was acknowledged last, that
this image does not reach, as long as the number of events is a word. -/
theorem start_covers
    {disk : Disk}
    {settings : Settings}
    (reliable : disk.Reliable)
    (vacant : disk.Vacant settings.home)
    (events : List Event)
    (word : events.length ≤ Word.max) :
    ∃ exchange, start disk settings events = .ok exchange ∧
      (exchange.Covers settings ↔ exchange.overtaken = false) := by
  obtain ⟨exchange, isRun, standing, bounded⟩ :=
    (standing_start reliable vacant).run events (by simpa using word)
  rw [List.length_nil, Nat.zero_add] at bounded
  refine ⟨exchange, ?_, standing.covers_iff (Nat.le_trans bounded word)⟩
  rw [start, Primary.openAt_of_vacant reliable vacant]
  exact isRun

/-- Two Backups whose messages arrive in turn, and one upload that fails. -/
theorem start_covers_interleaved :
    ∃ exchange,
      start Disk.empty (Settings.ofDirectory ".")
        [.mutate (.makeDirectory "/a"), .snapshot 1 1,
          .mutate (.createFile "/a/b"), .forceSync fun _ => none, .snapshot 0 2,
          .upload 1 fun _ => some ⟨.other "", 0⟩, .snapshot 1 1,
          .upload 1 fun _ => none, .upload 0 fun _ => none,
          .report 1 fun _ => none, .roll fun _ => none,
          .report 0 fun _ => none] =
        .ok exchange ∧
      (exchange.Covers (Settings.ofDirectory ".") ↔
        exchange.overtaken = false) :=
  start_covers (fun _ => rfl)
    (show Disk.empty.Vacant (Settings.ofDirectory ".").home from
      Disk.vacant_empty) _ (by decide)

/-- An older image that is stored before a newer one is reported does not cover
the checkpoint. The segments are purged, and a restart finds one mutation of
three. -/
theorem start_covers_overtaken :
    ∃ exchange,
      start Disk.empty (Settings.ofDirectory ".")
        [.mutate (.makeDirectory "/a"), .snapshot 1 1,
          .mutate (.makeDirectory "/b"), .mutate (.makeDirectory "/c"),
          .roll fun _ => none, .snapshot 0 3, .upload 0 fun _ => none,
          .upload 1 fun _ => none, .report 0 fun _ => none] =
        .ok exchange ∧
      ¬ exchange.Covers (Settings.ofDirectory ".") ∧
      (Primary.openAt exchange.course.disk
        (Settings.ofDirectory ".")).2.toOption.map
        (fun primary => primary.catalog.tree.children.map Tree.name) =
        some ["a"] := by
  have outcome : (start Disk.empty (Settings.ofDirectory ".")
      [.mutate (.makeDirectory "/a"), .snapshot 1 1,
        .mutate (.makeDirectory "/b"), .mutate (.makeDirectory "/c"),
        .roll fun _ => none, .snapshot 0 3, .upload 0 fun _ => none,
        .upload 1 fun _ => none, .report 0 fun _ => none]).toOption.map
      (fun exchange =>
      (exchange.course.primary.checkpointTxid,
        (Image.load exchange.course.disk
          (Settings.ofDirectory ".").imageLocation).toOption.map
          (·.map Image.txid),
        (Primary.openAt exchange.course.disk
          (Settings.ofDirectory ".")).2.toOption.map fun primary =>
          primary.catalog.tree.children.map Tree.name)) =
      some (3, some (some 1), some ["a"]) := by decide +kernel
  generalize start _ _ _ = result at outcome ⊢
  cases result with
  | error cause => cases outcome
  | ok exchange =>
      simp only [Except.toOption, Option.map_some, Option.some.injEq,
        Prod.mk.injEq] at outcome
      obtain ⟨checkpointTxid, imageTxid, names⟩ := outcome
      refine ⟨exchange, rfl, fun covers => ?_, names⟩
      obtain ⟨image, loaded, reached, -⟩ := covers (by omega)
      simp only [loaded, Option.map_some, Option.some.injEq] at imageTxid
      omega

end Exchange
end Cluster
end NameService
