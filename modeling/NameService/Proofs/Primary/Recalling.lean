import Mathlib.Data.List.Flatten
import NameService.Proofs.Primary.Traffic
import NameService.Proofs.Primary.Watermark
import NameService.Proofs.Upload.Framing

/-!
# What the next start recalls

What a Primary is started with is told by three things that its data directory
holds: the image, the checkpoint id, and the records of the segments. A report
raises the id and drops records that it covers; it spares what the next start
serves if the image includes the records that are no longer replayed. An upload
changes the image, and so what the next start serves, even if the report that
goes with it is refused.
-/

namespace NameService

/-- A stream with an image in it is acknowledged and the image is loaded from
then on, or nothing is sent and what was loaded before still is. -/
theorem Upload.load_of_receive
    (settings : Settings)
    (disk : Disk)
    {stream content : Bytes}
    {sent : Image}
    (arrived : payload stream = .ok content)
    (decoded : Image.decode content = .ok sent) :
    let received :=
      receive disk settings.imageLocation settings.checkpointStore stream
    let loaded := Image.load received.1 settings.imageLocation
    reply received.2 = acknowledgement ∧ loaded = .ok (some sent) ∨
      reply received.2 = [] ∧
      loaded = Image.load disk settings.imageLocation := by
  intro received loaded
  by_cases taken : ∃ other, Carries stream other ∧ Takes disk settings other
  · obtain ⟨other, carries, takes⟩ := taken
    obtain rfl : content = other := Except.ok.inj
      (arrived.symm.trans (payload_eq_ok_iff.mpr ⟨carries, takes.short⟩))
    obtain ⟨replied, stored⟩ := receive_of_takes carries takes
    exact .inl ⟨replied, Image.load_of_decode stored decoded⟩
  · obtain ⟨silent, stored⟩ := receive_of_not_takes fun other carries takes =>
      taken ⟨other, carries, takes⟩
    exact .inr ⟨silent, Image.load_congr stored⟩

namespace Primary

variable {settings : Settings}

/-! ## What a data directory holds -/

/-- A data directory holds a memory, and a Primary is started from it. -/
structure Recalls
    (settings : Settings)
    (disk : Disk)
    (memory : Memory) : Prop where
  checkpoint : settings.checkpointStore.load disk = .ok memory.checkpointTxid
  image : Image.load disk settings.imageLocation = .ok memory.image
  records : ∃ spans contents,
    Segment.list disk settings.editsLocation = .ok spans ∧
    Segment.collect (spans.map (Segment.read disk settings.editsLocation)) =
      .ok contents ∧
    memory.records = contents.flatten
  started : ∃ primary, openAt disk settings = (disk, .ok primary) ∧
    primary.checkpointTxid = memory.checkpointTxid ∧
    primary.catalog.tree = memory.tree ∧
    primary.catalog.appliedTxid = memory.txid

/-- Over an archive the records of its chapters are recalled. -/
theorem recalls_of_archived
    {log : Log}
    {disk : Disk}
    {chapters : List Log.Chapter}
    (archived : log.Archived disk chapters)
    (directory : log.directory = settings.editsLocation)
    (stands : disk.Stands settings.editsLocation)
    (word : log.flushedTxid ≤ Word.max)
    {checkpointTxid : Nat}
    (loaded : settings.checkpointStore.load disk = .ok checkpointTxid)
    {image : Option Image}
    (isImage : Image.load disk settings.imageLocation = .ok image) :
    Recalls settings disk
      ⟨image, checkpointTxid, chapters.flatMap Log.Chapter.records⟩ := by
  have ascending := archived.shelved.ascending
  have listed := Segment.Listed.list_eq archived.filed
    (directory ▸ stands.item?_eq : disk.item? log.directory = some .directory)
    ascending word
  have read : ∀ chapter ∈ chapters,
      Segment.read disk settings.editsLocation chapter.span =
      .ok chapter.records := by
    intro chapter present
    rw [← directory]
    refine archived.shelved.readSegment present fun record inChapter => ?_
    exact Nat.le_trans (Log.Course.covers_of_mem inChapter).2
      (Nat.le_trans (ascending.limited _ (List.mem_map_of_mem present)) word)
  refine ⟨loaded, isImage,
    ⟨_, chapters.map Log.Chapter.records, directory ▸ listed, ?_,
      List.flatMap_def⟩, _,
      Service.openAt_of_loaded archived directory stands word loaded isImage,
    rfl, rfl, rfl⟩
  simp only [Log.relisted, List.map_map]
  rw [List.map_congr_left (g := .ok ∘ Log.Chapter.records) read, ← List.map_map,
    Segment.collect_map_ok]

namespace Service

/-- A service that can be recalled: a Primary is started on its data directory,
with the checkpoint id in force. -/
structure Recallable (settings : Settings) (service : Service) : Prop where
  sturdy : service.Sturdy settings
  agrees : service.primary.Agrees service.disk

variable {service : Service}

/-- What a service that can be recalled holds. -/
theorem Recallable.recalls
    (recallable : service.Recallable settings)
    {chapters : List Log.Chapter}
    (archived : service.primary.catalog.log.Archived service.disk chapters)
    {image : Option Image}
    (isImage : Image.load service.disk settings.imageLocation = .ok image) :
    Recalls settings service.disk
      ⟨image, service.primary.checkpointTxid,
        chapters.flatMap Log.Chapter.records⟩ := by
  have sound := recallable.sturdy.sound
  have configured : service.primary.settings = settings := sound.configured
  have persisted := recallable.agrees.persisted
  rw [configured] at persisted
  exact recalls_of_archived archived sound.directory sound.stands
    sound.flushed_le persisted isImage

/-- A service goes on to be one that can be recalled, whatever happens to it. -/
theorem Recallable.step
    (recallable : service.Recallable settings)
    {event : Event}
    {after : Service}
    (stepped : service.step event = .ok after) :
    after.Recallable settings := by
  obtain ⟨other, taken, sturdy⟩ := recallable.sturdy.take (.serve event)
  obtain rfl : after = other := Except.ok.inj (stepped.symm.trans taken)
  refine ⟨sturdy, ?_⟩
  have failing := recallable.agrees.failing
  cases event with
  | mutate operation =>
      simp only [Service.step] at stepped
      split at stepped
      · obtain rfl := Except.ok.inj stepped
        exact recallable.agrees.mutate operation
      · obtain rfl := Except.ok.inj stepped
        exact recallable.agrees
  | write writing failures =>
      obtain rfl := Except.ok.inj stepped
      exact ((failing failures).write writing).failing _
  | upload stream failures =>
      obtain rfl := Except.ok.inj stepped
      exact ((failing failures).receive stream).failing _
  | report txid failures =>
      obtain rfl := Except.ok.inj stepped
      have word : service.primary.catalog.appliedTxid ≤ Word.max :=
        recallable.sturdy.sound.word
      have reported :=
        (failing failures).report (fun within => Nat.le_trans within word)
          (service.primary.settles_updateCheckpoint
            (service.disk.failing failures) txid)
      exact reported.2.1.failing _
  | fetch txid =>
      obtain rfl := Except.ok.inj stepped
      unfold Primary.fetchEdits
      split
      · exact ⟨recallable.agrees.directory, recallable.agrees.persisted⟩
      · exact recallable.agrees
  | attend fleet =>
      obtain rfl := Except.ok.inj stepped
      exact ⟨recallable.agrees.directory, recallable.agrees.persisted⟩
  | close failures =>
      obtain rfl := Except.ok.inj stepped
      exact (failing failures).close.failing _
  | restart =>
      simp only [Service.step, Service.restart] at stepped
      split at stepped
      · cases stepped
      · rename_i disk primary opened
        obtain rfl := Except.ok.inj stepped
        exact (agrees_of_openAt opened).2

/-- Whatever happens to a Primary that is started on an empty data directory, it
can be recalled. -/
theorem recallable_of_serve
    {disk : Disk}
    (reliable : disk.Reliable)
    (vacant : disk.Vacant settings.home)
    {events : List Event}
    (served : serve disk settings events = .ok service) :
    service.Recallable settings := by
  rw [serve_of_vacant reliable vacant] at served
  have initial :
      Recallable settings
        ⟨started disk settings, recovered settings [] [] 0 0, 0⟩ :=
    ⟨sturdy_started vacant,
      (agrees_of_openAt (openAt_of_vacant reliable vacant)).2⟩
  exact foldlM_induction (fun _ _ _ _ before stepped => before.step stepped)
    initial served

/-! ## Reports -/

/-- A report gives up some segments that end at or below its transaction id, and
leaves the others and the image. -/
theorem archived_of_settles
    {primary : Primary}
    {disk : Disk}
    {txid : Nat}
    {reported : Outcome Primary ServiceError Nat}
    (settles : primary.Settles disk txid reported)
    (configured : primary.settings = settings)
    (directory : primary.catalog.log.directory = settings.editsLocation)
    (word : primary.catalog.log.flushedTxid ≤ Word.max)
    {chapters : List Log.Chapter}
    (archived : primary.catalog.log.Archived disk chapters) :
    ∃ gone : List Span, (∀ span ∈ gone, span.last ≤ txid) ∧
      reported.state.catalog.log.Archived reported.disk
        (chapters.filter fun chapter => chapter.span ∉ gone) ∧
      reported.disk.item? settings.imageLocation =
        disk.item? settings.imageLocation := by
  have nothing : ∀ span ∈ ([] : List Span), span.last ≤ txid := fun _ present =>
    (List.not_mem_nil present).elim
  have whole :
      (chapters.filter fun chapter => chapter.span ∉ ([] : List Span)) =
        chapters := by simp
  have saves {after : Disk} {answer : Except FileError Unit}
      (outcome : primary.settings.checkpointStore.save disk txid =
        (after, answer)) :
      primary.catalog.log.Archived after chapters ∧
        after.item? settings.imageLocation =
          disk.item? settings.imageLocation := by
    rw [configured] at outcome
    have image := item?_image_of_save outcome
    rw [Checkpoint.Store.save, Disk.replace, scratch_checkpoint] at outcome
    exact ⟨archived_of_replace archived directory outcome, image⟩
  cases settles with
  | known covered => exact ⟨[], nothing, whole.symm ▸ archived, rfl⟩
  | ahead above beyond => exact ⟨[], nothing, whole.symm ▸ archived, rfl⟩
  | unsaved above within failed =>
      exact ⟨[], nothing, whole.symm ▸ (saves failed).1, (saves failed).2⟩
  | saved above within isSaved =>
      exact ⟨[], nothing, whole.symm ▸ (saves isSaved).1, (saves isSaved).2⟩
  | purged above within isSaved =>
      obtain ⟨still, image⟩ := saves isSaved
      obtain ⟨gone, below, purged⟩ := still.purgeThrough word txid
      refine ⟨gone, below, purged, Eq.trans ?_ image⟩
      exact Log.item?_purgeThrough _ _ _
        (directory.symm ▸ outside_editsLocation settings _)

/-- A report raises the checkpoint id, if it changes it, and drops records that
it covers. -/
theorem Recallable.report
    (recallable : service.Recallable settings)
    (txid : Nat)
    (failures : Nat → Option Disk.Failure) :
    let reported := service.report txid failures
    ∃ before after, Recalls settings service.disk before ∧
      Recalls settings reported.disk after ∧
      before.base.WellFormed ∧
      (before.records.Pairwise fun left right => left.txid < right.txid) ∧
      after.image = before.image ∧
      before.checkpointTxid ≤ after.checkpointTxid ∧
      after.records.Sublist before.records ∧
      ∀ record ∈ before.records, record ∉ after.records →
      record.txid ≤ txid := by
  intro reported
  have sound := recallable.sturdy.sound
  obtain ⟨chapters, archived, -⟩ := sound.archived
  obtain ⟨image, isImage⟩ := recallable.sturdy.readable.load_image
  have settles :=
    service.primary.settles_updateCheckpoint (service.disk.failing failures)
      txid
  obtain ⟨gone, below, left, sameImage⟩ :=
    archived_of_settles settles sound.configured sound.directory
      sound.flushed_le (archived.failing failures)
  have word : service.primary.catalog.appliedTxid ≤ Word.max := sound.word
  have raised := ((recallable.agrees.failing failures).report
    (fun within => Nat.le_trans within word) settles).2.2
  have before := recallable.recalls archived isImage
  have still :=
    recallable.step
      (show service.step (.report txid failures) = .ok reported from rfl)
  have after :=
    still.recalls (left.failing _) ((Image.load_congr sameImage).trans isImage)
  refine ⟨_, _, before, after, ?_,
    Log.Course.pairwise_flatMap_records archived.shelved.ascending, rfl, raised,
    List.filter_sublist.flatMap _, fun record present dropped => ?_⟩
  · cases image with
    | none => exact Tree.wellFormed_root
    | some known => exact (Image.rooted_of_load isImage known rfl).wellFormed
  · obtain ⟨chapter, isChapter, inChapter⟩ := List.mem_flatMap.mp present
    have isGone : chapter.span ∈ gone := by
      by_contra kept
      exact dropped (List.mem_flatMap.mpr
        ⟨chapter, List.mem_filter.mpr ⟨isChapter, decide_eq_true kept⟩,
          inChapter⟩)
    exact Nat.le_trans (Log.Course.covers_of_mem inChapter).2 (below _ isGone)

end Service

/-- Whatever happened to a Primary since it was started on an empty data
directory, and whatever comes of a report to it: the next start has the image
that it had before, a checkpoint id that is not lower, and all records but some
that the report covers. It serves the same tree at the same transaction id if
the image includes the records that are no longer replayed. -/
theorem report_spares
    {disk : Disk}
    (reliable : disk.Reliable)
    (vacant : disk.Vacant settings.home)
    {events : List Service.Event}
    {service : Service}
    (served : serve disk settings events = .ok service)
    (txid : Nat)
    (failures : Nat → Option Disk.Failure) :
    let reported := service.report txid failures
    ∃ before after, Recalls settings service.disk before ∧
      Recalls settings reported.disk after ∧
      after.image = before.image ∧
      before.checkpointTxid ≤ after.checkpointTxid ∧
      after.records.Sublist before.records ∧
      (∀ record ∈ before.records, record ∉ after.records → record.txid ≤ txid) ∧
      ((∀ record ∈ before.replayed, record ∉ after.replayed →
          ∃ image ∈ before.image, image.Includes record) →
        after.tree = before.tree ∧ after.txid = before.txid) := by
  intro reported
  obtain ⟨before, after, recalled, recalls, wellFormed, increasing, sameImage,
    raised, fewer, covered⟩ :=
    (Service.recallable_of_serve reliable vacant served).report txid failures
  exact ⟨before, after, recalled, recalls, sameImage, raised, fewer, covered,
    Memory.recovers_of_fewer wellFormed increasing sameImage raised fewer⟩

/-- Two records in segments of their own, and the image of the first one. -/
def halfCovered : List Service.Event :=
  [.mutate (.makeDirectory "/a"), .write .roll fun _ => none,
    .mutate (.createFile "/b"), .write .roll fun _ => none,
    .upload (Upload.frame
      (Image.encode 1 (Tree.ofHistory [.makeDirectory "/a"] 1))) fun _ => none]

/-- A report of the first record gives up its segment and spares both. -/
theorem report_spares_covered :
    ∃ service before after,
      serve Disk.empty (Settings.ofDirectory ".") halfCovered = .ok service ∧
      (service.report 1 fun _ => none).disk.has ["edits", "1_1.log"] = false ∧
      Recalls (Settings.ofDirectory ".") service.disk before ∧
      Recalls (Settings.ofDirectory ".") (service.report 1 fun _ => none).disk
        after ∧
      after.tree = before.tree ∧ after.txid = before.txid := by
  have purges : (serve Disk.empty (Settings.ofDirectory ".")
      halfCovered).toOption.map
      (fun service =>
        (service.report 1 fun _ => none).disk.has ["edits", "1_1.log"]) =
      some false := by decide +kernel
  have holds : (serve Disk.empty (Settings.ofDirectory ".")
      halfCovered).toOption.map
      (fun service =>
        (service.disk.item? (Settings.ofDirectory ".").imageLocation,
          (Segment.list service.disk
            (Settings.ofDirectory ".").editsLocation).toOption)) =
      some (some (.file
        (Image.encode 1 (Tree.ofHistory [.makeDirectory "/a"] 1))),
        some [⟨1, 1⟩, ⟨2, 2⟩]) := by decide +kernel
  have tells : (serve Disk.empty (Settings.ofDirectory ".")
      halfCovered).toOption.map
      (fun service =>
        (Segment.collect
          ([⟨1, 1⟩, ⟨2, 2⟩].map
            (Segment.read service.disk
              (Settings.ofDirectory ".").editsLocation))).toOption) =
      some (some [[⟨1, .makeDirectory "/a"⟩], [⟨2, .createFile "/b"⟩]]) := by
    decide +kernel
  cases isRun : serve Disk.empty (Settings.ofDirectory ".") halfCovered with
  | error cause =>
      rw [isRun] at purges
      cases purges
  | ok service =>
      simp only [isRun, Except.toOption, Option.map_some, Option.some.injEq,
        Prod.mk.injEq] at purges holds tells
      obtain ⟨before, after, recalled, recalls, sameImage, -, -, covered,
        spares⟩ := report_spares (fun _ => rfl)
        (show Disk.empty.Vacant (Settings.ofDirectory ".").home from
          Disk.vacant_empty) isRun 1
        fun _ => none
      have isImage : before.image =
          some ⟨1, Tree.ofHistory [.makeDirectory "/a"] 1⟩ := by
        have decoded := Image.decode_encode (show 1 ≤ Word.max by decide)
          (Tree.wellFormed_ofHistory [.makeDirectory "/a"] 1)
          (Tree.kind_ofHistory _ _) (Tree.name_ofHistory _ _)
            (by decide +kernel)
        exact Except.ok.inj
          (recalled.image.symm.trans (Image.load_of_decode holds.1 decoded))
      have told : before.records =
          [⟨1, .makeDirectory "/a"⟩, ⟨2, .createFile "/b"⟩] := by
        obtain ⟨spans, contents, isListed, isRead, flat⟩ := recalled.records
        obtain rfl : spans = [⟨1, 1⟩, ⟨2, 2⟩] := by
          simpa [isListed] using holds.2
        rw [isRead] at tells
        rw [flat, Option.some.inj tells]
        rfl
      have isTxid : after.imageTxid = 1 := by
        rw [Memory.imageTxid, sameImage, isImage]
        rfl
      have behind := after.floor_le
      refine ⟨service, before, after, rfl, purges, recalled, recalls,
        spares fun record replayed dropped => ?_⟩
      have present := (List.mem_filter.mp replayed).1
      have reached : record.txid ≤ 1 := by
        by_cases kept : record ∈ after.records
        · have below : ¬ after.floor < record.txid := fun above =>
            dropped (List.mem_filter.mpr ⟨kept, decide_eq_true above⟩)
          omega
        · exact covered record present kept
      rw [told] at present
      obtain rfl : record = ⟨1, .makeDirectory "/a"⟩ := by
        rcases List.mem_cons.mp present with rfl | inRest
        · rfl
        · rw [List.mem_singleton.mp inRest] at reached
          exact absurd reached (by decide)
      exact ⟨_, isImage, Image.includes_of_history ⟨Nat.one_pos, rfl⟩ reached⟩

/-- What a start serves: the names below the root, and the transaction id. -/
def glimpse (opened : Disk × Except ServiceError Primary) :
    Option (List String × Nat) :=
  opened.2.toOption.map fun primary =>
    (primary.catalog.tree.children.map Tree.name, primary.catalog.appliedTxid)

/-- Without an image a report is accepted that gives up the one segment there
is. The next start served its record before the report, and has lost it
after. -/
theorem report_forgets :
    ∃ service,
      serve Disk.empty (Settings.ofDirectory ".")
        [.mutate (.makeDirectory "/a"), .write .roll fun _ => none] =
        .ok service ∧
      (service.primary.updateCheckpoint service.disk 1).answer = .ok 1 ∧
      glimpse (openAt service.disk (Settings.ofDirectory ".")) =
        some (["a"], 1) ∧
      glimpse (openAt (service.primary.updateCheckpoint service.disk 1).disk
        (Settings.ofDirectory ".")) = some ([], 0) := by
  have outcome : (serve Disk.empty (Settings.ofDirectory ".")
      [.mutate (.makeDirectory "/a"), .write .roll fun _ => none]).toOption.map
      (fun service =>
        ((service.primary.updateCheckpoint service.disk 1).answer.toOption,
          glimpse (openAt service.disk (Settings.ofDirectory ".")),
          glimpse (openAt (service.primary.updateCheckpoint service.disk 1).disk
            (Settings.ofDirectory ".")))) =
      some (some 1, some (["a"], 1), some ([], 0)) := by decide +kernel
  generalize serve _ _ _ = result at outcome ⊢
  cases result with
  | error cause => cases outcome
  | ok service =>
      simp only [Except.toOption, Option.map_some, Option.some.injEq,
        Prod.mk.injEq] at outcome
      obtain ⟨answered, before, after⟩ := outcome
      refine ⟨service, rfl, ?_, before, after⟩
      cases said : (service.primary.updateCheckpoint service.disk 1).answer with
      | error cause => simp [said] at answered
      | ok value => simpa [said] using answered

/-! ## Uploads -/

/-- A report that is refused for its transaction id is beyond the log, and
changes nothing. -/
theorem Settles.of_input
    {primary : Primary}
    {disk : Disk}
    {txid : Nat}
    {reported : Outcome Primary ServiceError Nat}
    (settles : primary.Settles disk txid reported)
    {cause : InputError}
    (refused : reported.answer = .error (.input cause)) :
    primary.catalog.appliedTxid < txid ∧ reported.disk = disk ∧
      reported.state = primary := by
  cases settles with
  | ahead above beyond => exact ⟨beyond, rfl, rfl⟩
  | known covered => cases refused
  | unsaved above within failed => cases refused
  | saved above within isSaved => cases refused
  | purged above within isSaved =>
      simp only at refused
      split at refused <;> cases refused

namespace Service

variable {service : Service}

/-- An upload leaves the segments and the checkpoint id, and at most changes the
image. -/
theorem Recallable.upload
    (recallable : service.Recallable settings)
    (stream : Bytes)
    (failures : Nat → Option Disk.Failure) :
    let uploaded := service.upload stream failures
    uploaded.Recallable settings ∧
      ∃ before after, Recalls settings service.disk before ∧
        Recalls settings uploaded.disk after ∧
        after.checkpointTxid = before.checkpointTxid ∧
        after.records = before.records ∧
        (Log.maxTxid? before.records).getD 0 ≤
          service.primary.catalog.appliedTxid := by
  intro uploaded
  have sound := recallable.sturdy.sound
  have directory : service.primary.catalog.log.directory =
      settings.editsLocation := sound.directory
  obtain ⟨chapters, archived, -⟩ := sound.archived
  have still :=
    recallable.step
      (show service.step (.upload stream failures) = .ok uploaded from rfl)
  have left : uploaded.primary.catalog.log.Archived uploaded.disk chapters := by
    have kept := archived.failing failures
    simp only [uploaded, Service.upload, Remote.sendImage]
    rcases Upload.receive_leaves (service.disk.failing failures)
      service.primary.settings.imageLocation
      service.primary.settings.checkpointStore stream with
      same | ⟨content, image, answer, -, replaced⟩
    · rw [same]
      exact kept.failing _
    · generalize (Upload.receive _ _ _ stream).1 = after at replaced ⊢
      rw [sound.configured, Disk.replace, scratch_image] at replaced
      exact (archived_of_replace kept directory replaced).failing _
  obtain ⟨old, isOld⟩ := recallable.sturdy.readable.load_image
  obtain ⟨new, isNew⟩ := still.sturdy.readable.load_image
  refine ⟨still, _, _, recallable.recalls archived isOld,
    still.recalls left isNew, rfl, rfl, ?_⟩
  have ascending := archived.shelved.ascending
  have complete := archived.shelved.complete
  have covered := ascending.lastCovered_le
  simp only [Log.flushedTxid_relisted,
    Log.lastTxid_relisted] at complete covered
  rw [Log.maxTxid?_flatMap_records ascending]
  exact Nat.le_trans covered (by rw [Catalog.appliedTxid]; omega)

end Service

/-- Whatever happened to a Primary since it was started on an empty data
directory: when an image is sent to it, and the report that goes with it is
refused for its transaction id, the Primary is as it was. The next start has the
checkpoint id and the records that it had before, and all that it had if the
image was not acknowledged. If it was, the next start has the image that was
sent, and serves its transaction id, which is the one that it would have served
only if the image before had it. -/
theorem refused_keeps_upload
    {disk : Disk}
    (reliable : disk.Reliable)
    (vacant : disk.Vacant settings.home)
    {events : List Service.Event}
    {service : Service}
    (served : serve disk settings events = .ok service)
    {stream content : Bytes}
    {sent : Image}
    (arrived : Upload.payload stream = .ok content)
    (decoded : Image.decode content = .ok sent)
    (uploading reporting : Nat → Option Disk.Failure)
    {cause : InputError}
    (refused : ((service.upload stream uploading).primary.updateCheckpoint
      ((service.upload stream uploading).disk.failing reporting)
      sent.txid).answer =
        .error (.input cause)) :
    let acknowledged :=
      (Remote.sendImage stream (service.disk.failing uploading)
        service.primary).answer = .ok Upload.acknowledgement
    let reported := (service.upload stream uploading).report sent.txid reporting
    reported.primary = service.primary ∧
      ∃ before after, Recalls settings service.disk before ∧
        Recalls settings reported.disk after ∧
        after.checkpointTxid = before.checkpointTxid ∧
        after.records = before.records ∧
        (¬ acknowledged → after = before) ∧
        (acknowledged → after.image = some sent ∧ after.txid = sent.txid ∧
          (before.txid = sent.txid ↔ before.imageTxid = sent.txid)) := by
  intro acknowledged reported
  have recallable := Service.recallable_of_serve reliable vacant served
  have configured : service.primary.settings = settings :=
    recallable.sturdy.sound.configured
  obtain ⟨still, before, after, recalled, recalls, sameTxid, sameRecords,
    within⟩ :=
    recallable.upload stream uploading
  obtain ⟨beyond, sameDisk, samePrimary⟩ :=
    (Primary.settles_updateCheckpoint _ _ _).of_input refused
  have isDisk : reported.disk = (service.upload stream uploading).disk := by
    simp only [reported, Service.report, sameDisk]
    rfl
  have ahead : service.primary.catalog.appliedTxid < sent.txid := beyond
  refine ⟨samePrimary, before, after, recalled, isDisk ▸ recalls, sameTxid,
    sameRecords, ?_⟩
  have image := recalls.image
  rw [← configured] at image
  rcases Upload.load_of_receive service.primary.settings
    (service.disk.failing uploading) arrived decoded with
      ⟨replied, stored⟩ | ⟨silent, stored⟩
  · have isSent : after.image = some sent :=
      Except.ok.inj (image.symm.trans stored)
    have isTxid : after.imageTxid = sent.txid := by
      rw [Memory.imageTxid, isSent]
      rfl
    refine ⟨fun unheard => absurd (congrArg Except.ok replied) unheard,
      fun _ => ⟨isSent, ?_, ?_⟩⟩
    · rw [Memory.txid, isTxid, sameRecords]
      omega
    · rw [Memory.txid]
      omega
  · have old := recalled.image
    rw [← configured] at old
    have kept : after.image = before.image :=
      Except.ok.inj (image.symm.trans (stored.trans old))
    exact ⟨fun _ => Memory.ext kept sameTxid sameRecords, fun replied =>
      absurd (silent.symm.trans (Except.ok.inj replied))
        Upload.nil_ne_acknowledgement⟩

/-- An image of a directory, under a transaction id. -/
def imageOf (txid : Nat) (name : String) : Bytes :=
  Image.encode txid (Tree.ofHistory [.makeDirectory name] 1)

/-- What a report is told that is refused for being beyond the log. -/
def refusal : Except ServiceError Nat → Option (Nat × Nat)
  | .error (.input (.checkpointAhead txid applied)) => some (txid, applied)
  | _ => none

theorem eq_of_refusal
    {answer : Except ServiceError Nat}
    {txid applied : Nat}
    (refused : refusal answer = some (txid, applied)) :
    answer = .error (.input (.checkpointAhead txid applied)) := by
  unfold refusal at refused
  split at refused
  · cases refused
    rfl
  · cases refused

/-- An image ahead of the log that cannot be stored leaves nothing. -/
theorem refused_keeps_upload_unsaved :
    ∃ service memory,
      serve Disk.empty (Settings.ofDirectory ".")
        [.mutate (.makeDirectory "/a"), .write .roll fun _ => none] =
        .ok service ∧
      Recalls (Settings.ofDirectory ".") service.disk memory ∧
      Recalls (Settings.ofDirectory ".")
        ((service.upload (Upload.frame (imageOf 9 "/x")) fun _ =>
          some ⟨.other "", 0⟩).report 9 fun _ => none).disk memory := by
  have outcome : (serve Disk.empty (Settings.ofDirectory ".")
      [.mutate (.makeDirectory "/a"), .write .roll fun _ => none]).toOption.map
      (fun service =>
        let uploaded :=
          service.upload (Upload.frame (imageOf 9 "/x")) fun _ =>
            some ⟨.other "", 0⟩
        (refusal
          (uploaded.primary.updateCheckpoint
            (uploaded.disk.failing fun _ => none) 9).answer,
          (Remote.sendImage (Upload.frame (imageOf 9 "/x"))
            (service.disk.failing fun _ => some ⟨.other "", 0⟩)
            service.primary).answer.toOption)) =
      some (some (9, 1), some []) := by decide +kernel
  cases isRun : serve Disk.empty (Settings.ofDirectory ".") _ with
  | error cause =>
      rw [isRun] at outcome
      cases outcome
  | ok service =>
      simp only [isRun, Except.toOption, Option.map_some, Option.some.injEq,
        Prod.mk.injEq] at outcome
      obtain ⟨refused, silent⟩ := outcome
      have decoded : Image.decode (imageOf 9 "/x") =
          .ok ⟨9, Tree.ofHistory [.makeDirectory "/x"] 1⟩ :=
        Image.decode_encode (by decide) (Tree.wellFormed_ofHistory _ _)
          (Tree.kind_ofHistory _ _) (Tree.name_ofHistory _ _)
          (by decide +kernel)
      have arrived : Upload.payload (Upload.frame (imageOf 9 "/x")) =
          .ok (imageOf 9 "/x") :=
        Upload.payload_eq_ok_iff.mpr
          ⟨Upload.carries_frame (by decide +kernel), by decide +kernel⟩
      obtain ⟨-, before, after, recalled, recalls, -, -, unchanged, -⟩ :=
        refused_keeps_upload (fun _ => rfl)
        (show Disk.empty.Vacant (Settings.ofDirectory ".").home from
          Disk.vacant_empty) isRun
        arrived decoded (fun _ => some ⟨.other "", 0⟩) (fun _ => none)
          (eq_of_refusal refused)
      have same : after = before := unchanged fun replied => by
        rw [replied] at silent
        exact absurd silent (by decide)
      exact ⟨service, before, rfl, recalled, same ▸ recalls⟩

/-- An image ahead of the log is stored. The report that goes with it is
refused, but the next start serves what the image has, at its transaction id. -/
theorem refused_leaves_image :
    ∃ service,
      serve Disk.empty (Settings.ofDirectory ".")
        [.mutate (.makeDirectory "/a"), .write .roll fun _ => none] =
        .ok service ∧
      let uploaded :=
        service.upload (Upload.frame (imageOf 9 "/x")) fun _ => none
      (uploaded.primary.updateCheckpoint uploaded.disk 9).answer =
        .error (.input (.checkpointAhead 9 1)) ∧
      glimpse (openAt service.disk (Settings.ofDirectory ".")) =
        some (["a"], 1) ∧
      glimpse (openAt (uploaded.primary.updateCheckpoint uploaded.disk 9).disk
        (Settings.ofDirectory ".")) = some (["x", "a"], 9) := by
  have outcome : (serve Disk.empty (Settings.ofDirectory ".")
      [.mutate (.makeDirectory "/a"), .write .roll fun _ => none]).toOption.map
      (fun service =>
        let uploaded :=
          service.upload (Upload.frame (imageOf 9 "/x")) fun _ => none
        (refusal (uploaded.primary.updateCheckpoint uploaded.disk 9).answer,
          glimpse (openAt service.disk (Settings.ofDirectory ".")),
          glimpse (openAt
            (uploaded.primary.updateCheckpoint uploaded.disk 9).disk
            (Settings.ofDirectory ".")))) =
      some (some (9, 1), some (["a"], 1), some (["x", "a"], 9)) := by
    decide +kernel
  generalize serve _ _ _ = result at outcome ⊢
  cases result with
  | error cause => cases outcome
  | ok service =>
      simp only [Except.toOption, Option.map_some, Option.some.injEq,
        Prod.mk.injEq] at outcome
      obtain ⟨refused, before, after⟩ := outcome
      exact ⟨service, rfl, eq_of_refusal refused, before, after⟩

end Primary
end NameService
