import NameService.Proofs.Primary.Standing
import NameService.Proofs.Upload.Storing

/-!
# The image channel

The Primary acknowledges a stream if and only if it carries an image that may
replace the stored one and does, and the sender gets to know just that. What is
stored then is what was sent; otherwise the stored image stays.
-/

namespace NameService
namespace Upload

variable {settings : Settings} {disk : Disk} {stream content : Bytes}

/-! ## Verdicts -/

/-- What makes the Primary of a data directory take an image: it is not too
long, it is a valid image, it is not older than the persisted checkpoint, and
the file can be replaced. -/
structure Takes
    (disk : Disk)
    (settings : Settings)
    (content : Bytes) : Prop where
  short : content.length ≤ lengthLimit
  recent : ∃ image floor, Image.decode content = .ok image ∧
    settings.checkpointStore.load disk = .ok floor ∧ floor ≤ image.txid
  written : (disk.replace settings.imageLocation content).2 = .ok ()

/-- A content that the stream carries and the Primary takes is stored. -/
theorem receive_of_takes
    (carries : Carries stream content)
    (takes : Takes disk settings content) :
    let received :=
      receive disk settings.imageLocation settings.checkpointStore stream
    reply received.2 = acknowledgement ∧
      received.1.item? settings.imageLocation = some (.file content) := by
  intro received
  have arrived := payload_eq_ok_iff.mpr ⟨carries, takes.short⟩
  obtain ⟨txid, checked⟩ := check_eq_ok_iff.mpr takes.recent
  rcases receive_cases disk settings.imageLocation settings.checkpointStore
    stream with
    ⟨cause, -, unchecked⟩ | ⟨other, _, after, isOther, -, stored⟩
  · exact absurd (checked.symm.trans (unchecked content arrived)) nofun
  · obtain rfl : content = other := Except.ok.inj (arrived.symm.trans isOther)
    have written := takes.written
    rcases stored with ⟨fault, replaced, -⟩ | ⟨replaced, isReceived⟩
    · rw [replaced] at written
      cases written
    · rw [show received = _ from isReceived]
      exact ⟨rfl, Disk.item?_replaced replaced⟩

/-- A stream that is not taken is not acknowledged, and the stored image
stays. -/
theorem receive_of_not_takes
    (refused : ∀ content, Carries stream content →
      ¬ Takes disk settings content) :
    let received :=
      receive disk settings.imageLocation settings.checkpointStore stream
    reply received.2 = [] ∧
      received.1.item? settings.imageLocation =
        disk.item? settings.imageLocation := by
  intro received
  rcases receive_cases disk settings.imageLocation settings.checkpointStore
    stream with
    ⟨cause, isReceived, -⟩ | ⟨content, txid, after, arrived, checked, stored⟩
  · rw [show received = _ from isReceived]
    exact ⟨rfl, rfl⟩
  · rcases stored with ⟨fault, replaced, isReceived⟩ | ⟨replaced, -⟩
    · rw [show received = _ from isReceived]
      exact ⟨rfl,
        Disk.item?_of_replace_error replaced
          (Primary.image_ne_scratch settings)⟩
    · obtain ⟨carries, short⟩ := payload_eq_ok_iff.mp arrived
      exact absurd ⟨short, check_eq_ok_iff.mp ⟨txid, checked⟩, by rw [replaced]⟩
        (refused content carries)

/-- On every disk, whatever of it is missing, damaged or going to fail, a stream
is acknowledged if and only if it carries an image that the Primary takes. The
stored image is then what the stream carries, and otherwise nothing is sent and
it stays. A sender of an image is told that it was uploaded if and only if the
Primary takes it. -/
theorem receive_serves (primary : Primary) (disk : Disk) :
    (∀ stream,
      let received :=
        receive disk primary.settings.imageLocation
          primary.settings.checkpointStore stream
      let stored := received.1.item? primary.settings.imageLocation
      (reply received.2 = acknowledgement ↔
        ∃ content, Carries stream content ∧
        Takes disk primary.settings content) ∧
      (∀ content, Carries stream content → Takes disk primary.settings content →
        stored = some (.file content)) ∧
      (reply received.2 ≠ acknowledgement → reply received.2 = [] ∧
        stored = disk.item? primary.settings.imageLocation)) ∧
    ∀ content, content.length ≤ Word.max →
      let sent := Remote.uploadImage content disk (some primary)
      let stored := sent.disk.item? primary.settings.imageLocation
      (sent.answer = .ok () ↔ Takes disk primary.settings content) ∧
      (sent.answer = .ok () → stored = some (.file content)) ∧
      (sent.answer ≠ .ok () →
        stored = disk.item? primary.settings.imageLocation) := by
  constructor
  · intro stream received stored
    by_cases taken : ∃ content, Carries stream content ∧
      Takes disk primary.settings content
    · obtain ⟨content, carries, takes⟩ := taken
      have replied := (receive_of_takes carries takes).1
      exact ⟨⟨fun _ => ⟨content, carries, takes⟩, fun _ => replied⟩,
        fun content carries takes => (receive_of_takes carries takes).2,
        fun other => absurd replied other⟩
    · have refused := receive_of_not_takes fun content carries takes =>
        taken ⟨content, carries, takes⟩
      refine ⟨⟨fun replied => ?_, fun other => absurd other taken⟩,
        fun content carries takes => absurd ⟨content, carries, takes⟩ taken,
        fun _ => refused⟩
      exact absurd (refused.1.symm.trans replied) nil_ne_acknowledgement
  · intro content word sent stored
    have carries := carries_frame word
    simp only [stored, sent, Remote.uploadImage_eq]
    by_cases takes : Takes disk primary.settings content
    · obtain ⟨replied, isStored⟩ := receive_of_takes carries takes
      have told : acknowledged acknowledgement = .ok () := if_pos rfl
      rw [replied, told]
      exact ⟨⟨fun _ => takes, fun _ => rfl⟩, fun _ => isStored,
        fun other => absurd rfl other⟩
    · obtain ⟨replied, isLeft⟩ :=
        receive_of_not_takes fun other carries takes_ =>
        takes (carries.eq_of_frame word ▸ takes_)
      have told : acknowledged [] ≠ .ok () := by
        obtain ⟨cause, silent⟩ := acknowledged_nil
        rw [silent]
        nofun
      rw [replied]
      exact ⟨⟨fun done => absurd done told, fun other => absurd other takes⟩,
        fun done => absurd done told, fun _ => isLeft⟩

/-- A data directory with a checkpoint id and the image of an empty namespace at
it. -/
def checkpointed : Disk :=
  { Disk.empty with
    items := [(["checkpoint-txid.meta"], .file (Text.utf8 (Text.decimal 4))),
      (["fsimage.json"], .file (Image.encode 4 Tree.root))] }

/-- Over it a newer image is uploaded, and an older one is not. -/
theorem receive_serves_checkpointed :
    let primary := Primary.recovered (Settings.ofDirectory ".") [] [] 0 4
    let newer :=
      Remote.uploadImage (Image.encode 7 Tree.root) checkpointed (some primary)
    let older :=
      Remote.uploadImage (Image.encode 3 Tree.root) checkpointed (some primary)
    newer.answer = .ok () ∧
      newer.disk.item? ["fsimage.json"] =
        some (.file (Image.encode 7 Tree.root)) ∧
      older.answer ≠ .ok () ∧
      older.disk.item? ["fsimage.json"] =
        some (.file (Image.encode 4 Tree.root)) := by
  intro primary newer older
  have location : primary.settings.imageLocation = ["fsimage.json"] := by
    decide +kernel
  have loaded : primary.settings.checkpointStore.load checkpointed = .ok 4 :=
    Checkpoint.Store.Keeps.load (.inl (by decide +kernel)) (by decide)
  have decoded (txid : Nat) (word : txid ≤ Word.max) :
      Image.decode (Image.encode txid Tree.root) = .ok ⟨txid, Tree.root⟩ :=
    Image.decode_encode word Tree.wellFormed_root rfl rfl (by decide)
  have serves := receive_serves primary checkpointed
  obtain ⟨uploads, stores, -⟩ :=
    serves.2 (Image.encode 7 Tree.root) (by decide +kernel)
  obtain ⟨refuses, -, leaves⟩ :=
    serves.2 (Image.encode 3 Tree.root) (by decide +kernel)
  have uploaded : newer.answer = .ok () := uploads.mpr
    ⟨by decide +kernel,
      ⟨⟨7, Tree.root⟩, 4, decoded 7 (by decide), loaded, by decide⟩,
      by decide +kernel⟩
  have refused : older.answer ≠ .ok () := fun done => by
    obtain ⟨image, floor, isImage, isFloor, recent⟩ := (refuses.mp done).recent
    rw [decoded 3 (by decide)] at isImage
    rw [loaded] at isFloor
    cases isImage
    cases isFloor
    exact absurd recent (by decide)
  rw [location] at stores leaves
  exact ⟨uploaded, stores uploaded, refused, leaves refused⟩

end Upload
end NameService
