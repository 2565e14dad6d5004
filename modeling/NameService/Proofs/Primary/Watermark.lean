import NameService.Proofs.Catalog.Delivery
import NameService.Proofs.Primary.Service

/-!
# The watermark of checkpoints

The checkpoint id in force is the persisted one, after every operation and
whatever steps of the disk fail, and it never falls, however often a Primary is
started on its data directory. A report is answered with the id in force; one
that is beyond the log, or that cannot be saved, changes nothing.
-/

namespace NameService

namespace Log

/-- A writing neither appends to a log nor moves it. -/
theorem write_same (log : Log) (disk : Disk) (writing : Writing) :
    (log.write disk writing).state.lastTxid = log.lastTxid ∧
      (log.write disk writing).state.directory = log.directory := by
  cases writing with
  | rotate => exact log.keepUp_same disk .rotate
  | flush => exact log.keepUp_same disk .flush
  | roll => exact log.keepUp_same disk .roll
  | forceSync => exact log.keepUp_same disk .forceSync

theorem directory_advanceTo (log : Log) (txid : Nat) :
    (log.advanceTo txid).directory = log.directory := by
  rcases log.advanceTo_cases txid with same | ⟨-, -, moved⟩
  · rw [same]
  · rw [moved]

end Log

/-! ## What a start leaves alone -/

namespace Catalog

/-- Recovering a catalog makes the directory of its log at most. -/
theorem item?_recover
    (disk : Disk)
    {directory place : Location}
    (elsewhere : place ∉ Disk.above directory ++ [directory])
    (segmentSize checkpointTxid : Nat)
    (image : Option Image) :
    (recover disk directory segmentSize image checkpointTxid).1.item? place =
      disk.item? place := by
  have made := disk.item?_makeDirectories elsewhere
  unfold recover Log.openAt
  simp only
  split
  · rfl
  · split
    · rfl
    · cases outcome : disk.makeDirectories directory with
      | mk after answer =>
          rw [outcome] at made
          cases answer with
          | error error => exact made
          | ok _ =>
              simp only
              cases Segment.list after directory <;> exact made

/-- The log of a catalog that is recovered from a directory is that of the
directory. -/
theorem directory_of_recover
    {disk after : Disk}
    {directory : Location}
    {segmentSize checkpointTxid : Nat}
    {image : Option Image}
    {catalog : Catalog}
    (recovered : recover disk directory segmentSize image checkpointTxid =
      (after, .ok catalog)) :
    catalog.log.directory = directory := by
  unfold recover at recovered
  simp only at recovered
  split at recovered
  · cases recovered
  · split at recovered
    · cases recovered
    · split at recovered
      · cases recovered
      · rename_i log opened
        cases recovered
        obtain ⟨spans, -, -, rfl⟩ := Log.openAt_eq_ok opened
        exact Log.directory_advanceTo _ _

end Catalog

namespace Primary

/-- A file beside the directory of the log is neither it nor above it. -/
theorem append_not_mem_above
    (settings : Settings)
    {name : String}
    (other : name ≠ Settings.editsName) :
    settings.home ++ [name] ∉
      Disk.above settings.editsLocation ++ [settings.editsLocation] := by
  intro present
  rw [Settings.editsLocation, Disk.above_append_singleton] at present
  rcases List.mem_append.mp present with higher | own
  · exact Disk.ne_of_mem_above_self higher name rfl
  · exact append_ne_append other settings.home (List.mem_singleton.mp own)

/-- A start touches no file of the data directory, whether it succeeds or
not. -/
theorem item?_openAt
    (disk : Disk)
    (settings : Settings)
    {name : String}
    (other : name ≠ Settings.editsName) :
    (openAt disk settings).1.item? (settings.home ++ [name]) =
      disk.item? (settings.home ++ [name]) := by
  have made := disk.item?_makeDirectories
    (show settings.home ++ [name] ∉
      Disk.above settings.home ++ [settings.home] from
      fun present => Disk.ne_of_mem_above_self present name rfl)
  unfold openAt
  cases outcome : disk.makeDirectories settings.home with
  | mk after answer =>
      rw [outcome] at made
      cases answer with
      | error error => exact made
      | ok _ =>
          simp only
          split
          · exact made
          · split
            · exact made
            · exact (Catalog.item?_recover after
                (append_not_mem_above settings other) _ _ _).trans made

/-! ## Agreement -/

/-- The log of a Primary is the one in its data directory, and the checkpoint id
in force is the persisted one. -/
structure Agrees (primary : Primary) (disk : Disk) : Prop where
  directory : primary.catalog.log.directory = primary.settings.editsLocation
  persisted : primary.settings.checkpointStore.load disk =
    .ok primary.checkpointTxid

variable {primary : Primary} {disk : Disk}

/-- A Primary agrees with the disk from which it was opened. -/
theorem agrees_of_openAt
    {after : Disk}
    {settings : Settings}
    (opened : openAt disk settings = (after, .ok primary)) :
    primary.settings = settings ∧ primary.Agrees after := by
  obtain ⟨made, image, catalog, -, loaded, -, recovered, isPrimary⟩ :=
    openAt_eq_ok opened
  have frame := Catalog.item?_recover made (append_not_mem_above settings
    (show Settings.checkpointTxidName ≠ Settings.editsName by decide))
      settings.segmentSize primary.checkpointTxid image
  rw [recovered] at frame
  rw [isPrimary]
  exact ⟨rfl, Catalog.directory_of_recover recovered,
    (Checkpoint.Store.load_congr frame).trans loaded⟩

/-- Only the file of the checkpoint id makes a difference to the agreement. -/
theorem Agrees.frame
    (agrees : primary.Agrees disk)
    {after : Disk}
    (same : after.item? primary.settings.checkpointStore.location =
      disk.item? primary.settings.checkpointStore.location) :
    primary.Agrees after :=
  ⟨agrees.directory, (Checkpoint.Store.load_congr same).trans agrees.persisted⟩

/-- The failures of a disk make no difference to the agreement. -/
theorem Agrees.failing
    (agrees : primary.Agrees disk)
    (failures : Nat → Option Disk.Failure) :
    primary.Agrees (disk.failing failures) :=
  agrees.frame rfl

/-- A Primary goes on to agree when its log does not move. -/
theorem Agrees.relog
    (agrees : primary.Agrees disk)
    {catalog : Catalog}
    (same : catalog.log.directory = primary.catalog.log.directory) :
    ({ primary with catalog := catalog }).Agrees disk :=
  ⟨same.trans agrees.directory, agrees.persisted⟩

theorem Agrees.mutate
    (agrees : primary.Agrees disk)
    (operation : Operation) :
    (primary.mutate operation).1.Agrees disk := by
  rw [mutate_eq]
  refine agrees.relog ?_
  rcases Catalog.mutate_cases primary.catalog operation with
    same | ⟨tree, made, -, logged⟩
  · rw [same]
  · rw [logged]
    rfl

theorem Agrees.write
    (agrees : primary.Agrees disk)
    (writing : Log.Writing) :
    ({ primary with
      catalog := { primary.catalog with
        log := (primary.catalog.log.write disk writing).state } }).Agrees
      (primary.catalog.log.write disk writing).disk := by
  refine (agrees.frame ?_).relog (Log.write_same _ _ writing).2
  exact Log.item?_write _ _ _ (agrees.directory ▸ outside_editsLocation _ _)

/-- An upload does not touch the file of the checkpoint id. -/
theorem Agrees.receive
    (agrees : primary.Agrees disk)
    (stream : Bytes) :
    primary.Agrees (Upload.receive disk primary.settings.imageLocation
      primary.settings.checkpointStore stream).1 := by
  rcases Upload.receive_leaves disk primary.settings.imageLocation
    primary.settings.checkpointStore stream with
      same | ⟨content, image, answer, -, replaced⟩
  · rw [same]
    exact agrees
  · exact agrees.frame (item?_checkpoint_of_replace replaced)

/-- A checkpoint id that is saved is put in force, and one that is not leaves
the old one. -/
theorem Agrees.save
    (agrees : primary.Agrees disk)
    {txid : Nat}
    (word : txid ≤ Word.max)
    {after : Disk}
    {answer : Except FileError Unit}
    (saved : primary.settings.checkpointStore.save disk txid =
      (after, answer)) :
    match answer with
    | .ok () => ({ primary with checkpointTxid := txid }).Agrees after
    | .error _ => primary.Agrees after := by
  cases answer with
  | ok _ =>
      exact ⟨agrees.directory, (Checkpoint.Store.keeps_of_save saved).load word⟩
  | error cause =>
      exact agrees.frame
        (Disk.item?_of_replace_error saved (checkpoint_ne_scratch _))

theorem Agrees.purge
    (agrees : primary.Agrees disk)
    (txid : Nat) :
    ({ primary with
      catalog := { primary.catalog with
        log := (primary.catalog.log.purgeThrough disk txid).state } }).Agrees
      (primary.catalog.log.purgeThrough disk txid).disk := by
  refine (agrees.frame ?_).relog rfl
  exact Log.item?_purgeThrough _ _ _
    (agrees.directory ▸ outside_editsLocation _ _)

/-- A report never lowers the checkpoint id in force. -/
theorem Agrees.report
    (agrees : primary.Agrees disk)
    {txid : Nat}
    (word : txid ≤ primary.catalog.appliedTxid → txid ≤ Word.max)
    {reported : Outcome Primary ServiceError Nat}
    (settles : primary.Settles disk txid reported) :
    reported.state.settings = primary.settings ∧
      reported.state.Agrees reported.disk ∧
      primary.checkpointTxid ≤ reported.state.checkpointTxid := by
  cases settles with
  | known covered => exact ⟨rfl, agrees, Nat.le_refl _⟩
  | ahead above beyond => exact ⟨rfl, agrees, Nat.le_refl _⟩
  | unsaved above within failed =>
      exact ⟨rfl, agrees.save (word within) failed, Nat.le_refl _⟩
  | saved above within isSaved =>
      exact ⟨rfl, agrees.save (word within) isSaved, Nat.le_of_lt above⟩
  | purged above within isSaved =>
      have saved := agrees.save (word within) isSaved
      exact ⟨rfl, saved.purge txid, Nat.le_of_lt above⟩

/-- Closing saves the checkpoint id again, or leaves it as it is persisted. -/
theorem Agrees.close (agrees : primary.Agrees disk) :
    (primary.close disk).state.Agrees (primary.close disk).disk := by
  obtain ⟨isDisk, isState, -⟩ := primary.close_eq disk
  have flushed := agrees.write .forceSync
  have word := Checkpoint.Store.load_le agrees.persisted
  cases saved : primary.settings.checkpointStore.save
      (primary.catalog.log.forceSync disk).disk primary.checkpointTxid with
  | mk after answer =>
      have persisted : primary.settings.checkpointStore.load after =
          .ok primary.checkpointTxid := by
        have kept := flushed.save word saved
        cases answer with
        | ok _ => exact kept.persisted
        | error cause => exact kept.persisted
      rw [isDisk, isState, saved]
      exact ⟨flushed.directory, persisted⟩

/-! ## Answers -/

/-- The answer to the report of a transaction id tells what came of it. -/
structure Answers
    (primary : Primary)
    (disk : Disk)
    (txid : Nat)
    (reported : Outcome Primary ServiceError Nat) : Prop where
  /-- The id in force is answered, which covers what was reported. -/
  accepted : ∀ value, reported.answer = .ok value →
    txid ≤ value ∧
      reported.state.checkpointTxid = value ∧
      primary.settings.checkpointStore.load reported.disk = .ok value
  /-- A report that fails has failed to purge what it covers, or it is beyond
  the log or could not be saved. Then the Primary is as it was, and the disk is
  but for the scratch file of the checkpoint id. -/
  refused : ∀ cause, reported.answer = .error cause →
    (∃ fault, cause = .log fault ∧ reported.state.checkpointTxid = txid ∧
        primary.settings.checkpointStore.load reported.disk = .ok txid) ∨
      ((primary.catalog.appliedTxid < txid ∧
          cause = .input (.checkpointAhead txid primary.catalog.appliedTxid)) ∨
        ∃ fault, cause = .file fault) ∧
      reported.state = primary ∧
      primary.settings.checkpointStore.load reported.disk =
        .ok primary.checkpointTxid ∧
      ∀ place, place ≠ Disk.scratch primary.settings.checkpointStore.location →
        reported.disk.item? place = disk.item? place

/-- Every report is answered with what came of it. -/
theorem Agrees.answers
    (agrees : primary.Agrees disk)
    {txid : Nat}
    (word : txid ≤ Word.max)
    {reported : Outcome Primary ServiceError Nat}
    (settles : primary.Settles disk txid reported) :
    primary.Answers disk txid reported := by
  obtain ⟨sameSettings, still, -⟩ := agrees.report (fun _ => word) settles
  have persisted := still.persisted
  rw [sameSettings] at persisted
  cases settles with
  | known covered =>
      exact ⟨fun value said => Except.ok.inj said ▸ ⟨covered, rfl, persisted⟩,
        nofun⟩
  | ahead above beyond =>
      refine ⟨nofun, fun cause said => .inr ⟨.inl ⟨beyond, ?_⟩, rfl,
        persisted, fun _ _ => rfl⟩⟩
      exact (Except.error.inj said).symm
  | @unsaved after fault above within failed =>
      refine ⟨nofun, fun cause said => .inr ⟨.inr ⟨fault, ?_⟩, rfl, persisted,
        fun place notScratch => Disk.item?_of_replace_error failed notScratch⟩⟩
      exact (Except.error.inj said).symm
  | saved above within isSaved =>
      exact ⟨fun value said =>
        Except.ok.inj said ▸ ⟨Nat.le_refl _, rfl, persisted⟩, nofun⟩
  | purged above within isSaved =>
      refine ⟨fun value said => ?_, fun cause said => .inl ?_⟩
      · simp only at said
        split at said
        · exact Except.ok.inj said ▸ ⟨Nat.le_refl _, rfl, persisted⟩
        · cases said
      · simp only at said
        split at said
        · cases said
        · exact ⟨_, (Except.error.inj said).symm, rfl, persisted⟩

/-! ## Sites -/

/-- What a running Primary is asked. -/
inductive Call
  /-- To carry out a mutation. -/
  | mutate (operation : Operation)
  /-- To write its log, in part or as a whole. -/
  | write (writing : Log.Writing)
  /-- To take a stream at the image channel. -/
  | upload (stream : Bytes)
  /-- To record a checkpoint. -/
  | report (txid : UInt64)
  /-- To close. -/
  | close

/-- What a call leaves of the disk and of the Primary. -/
def perform (primary : Primary) (disk : Disk) : Call → Disk × Primary
  | .mutate operation => (disk, (primary.mutate operation).1)
  | .write writing =>
      let written :=
        primary.catalog.withLog (primary.catalog.log.write disk writing)
      (written.disk, { primary with catalog := written.state })
  | .upload stream =>
      let sent := Remote.sendImage stream disk primary
      (sent.disk, sent.state)
  | .report txid =>
      let reported := primary.updateCheckpoint disk txid.toNat
      (reported.disk, reported.state)
  | .close =>
      let closed := primary.close disk
      (closed.disk, closed.state)

theorem toNat_le_max (txid : UInt64) : txid.toNat ≤ Word.max :=
  Nat.le_of_lt_succ txid.toNat_lt

/-- A Primary that agrees with its disk does so after every call, and its
checkpoint id does not fall. -/
theorem Agrees.perform
    (agrees : primary.Agrees disk)
    (call : Call) :
    (primary.perform disk call).2.settings = primary.settings ∧
      (primary.perform disk call).2.Agrees (primary.perform disk call).1 ∧
      primary.checkpointTxid ≤
        (primary.perform disk call).2.checkpointTxid := by
  cases call with
  | mutate operation =>
      refine ⟨?_, agrees.mutate operation, ?_⟩ <;>
        simp only [Primary.perform, mutate_eq, le_refl]
  | write writing => exact ⟨rfl, agrees.write writing, Nat.le_refl _⟩
  | upload stream => exact ⟨rfl, agrees.receive stream, Nat.le_refl _⟩
  | report txid =>
      exact agrees.report (fun _ => toNat_le_max txid)
        (primary.settles_updateCheckpoint disk _)
  | close =>
      have isState := (primary.close_eq disk).2.1
      refine ⟨?_, agrees.close, ?_⟩ <;>
        simp only [Primary.perform, isState, le_refl]

/-- What happens at a data directory. Failures are those of the steps of the
disk that are taken. -/
inductive Site.Event
  /-- The running Primary is asked for something, if there is one. -/
  | call (call : Call) (failures : Nat → Option Disk.Failure)
  /-- A Primary is started with some settings, and takes the place of the
  running one. -/
  | start (settings : Settings) (failures : Nat → Option Disk.Failure)

/-- A disk, and the Primary that runs on the data directory, if one does. -/
structure Site where
  disk : Disk
  running : Option Primary

namespace Site

/-- What a site is after one more event at its data directory. -/
def step (directory : String) (site : Site) : Event → Site
  | .call call failures =>
      match site.running with
      | none => site
      | some primary =>
          let (disk, primary) :=
            primary.perform (site.disk.failing failures) call
          ⟨disk.mended, some primary⟩
  | .start settings failures =>
      let (disk, opened) := openAt (site.disk.failing failures)
        { settings with dataDirectory := directory }
      ⟨disk.mended, opened.toOption⟩

/-- What a site is after a run of events at its data directory. -/
def run (directory : String) (site : Site) (events : List Event) : Site :=
  events.foldl (step directory) site

/-- The persisted checkpoint id of a data directory. -/
def load (directory : String) (disk : Disk) : Except ServiceError Nat :=
  (Settings.ofDirectory directory).checkpointStore.load disk

/-- A site has come to a checkpoint id: that is the persisted one, and the one
in force. -/
structure Marked (directory : String) (site : Site) (txid : Nat) : Prop where
  persisted : load directory site.disk = .ok txid
  running : ∀ primary ∈ site.running,
    primary.settings.dataDirectory = directory ∧ primary.Agrees site.disk

variable {directory : String} {site : Site} {txid : Nat}

/-- What a Primary has persisted is the checkpoint id of its data directory. -/
theorem load_of_agrees
    (configured : primary.settings.dataDirectory = directory)
    (agrees : primary.Agrees disk) :
    load directory disk = .ok primary.checkpointTxid := by
  subst configured
  exact agrees.persisted

/-- The checkpoint id that a site has come to is in force. -/
theorem Marked.inForce
    (marked : site.Marked directory txid)
    (isRunning : primary ∈ site.running) :
    primary.checkpointTxid = txid := by
  obtain ⟨configured, agrees⟩ := marked.running primary isRunning
  exact Except.ok.inj
    ((load_of_agrees configured agrees).symm.trans marked.persisted)

/-- A call does not lower the checkpoint id of a site. -/
theorem Marked.call
    (marked : site.Marked directory txid)
    (call : Call)
    (failures : Nat → Option Disk.Failure) :
    ∃ raised, txid ≤ raised ∧
      (site.step directory (.call call failures)).Marked directory raised := by
  cases isRunning : site.running with
  | none =>
      refine ⟨txid, Nat.le_refl _, ?_⟩
      rw [step, isRunning]
      exact marked
  | some primary =>
      obtain ⟨configured, agrees⟩ := marked.running primary isRunning
      obtain ⟨sameSettings, still, raised⟩ :=
        (agrees.failing failures).perform call
      rw [marked.inForce isRunning] at raised
      refine ⟨_, raised, ?_⟩
      rw [step, isRunning]
      rw [← sameSettings] at configured
      have mended := still.failing fun _ => none
      exact ⟨load_of_agrees configured mended, fun other isOther =>
        Option.some.inj isOther ▸ ⟨configured, mended⟩⟩

/-- A start takes up the checkpoint id of its site. -/
theorem Marked.start
    (marked : site.Marked directory txid)
    (settings : Settings)
    (failures : Nat → Option Disk.Failure) :
    (site.step directory (.start settings failures)).Marked directory txid := by
  have frame := item?_openAt (site.disk.failing failures)
    { settings with dataDirectory := directory }
    (show Settings.checkpointTxidName ≠ Settings.editsName by decide)
  rw [step]
  cases opened : openAt (site.disk.failing failures)
      { settings with dataDirectory := directory } with
  | mk after answer =>
      rw [opened] at frame
      have persisted : load directory after.mended = .ok txid :=
        (Checkpoint.Store.load_congr frame).trans marked.persisted
      refine ⟨persisted, fun primary isRunning => ?_⟩
      cases answer with
      | error cause => cases isRunning
      | ok other =>
          obtain rfl := Option.some.inj isRunning
          obtain ⟨configured, agrees⟩ := agrees_of_openAt opened
          exact ⟨by rw [configured], agrees.failing _⟩

theorem Marked.step
    (marked : site.Marked directory txid)
    (event : Event) :
    ∃ raised, txid ≤ raised ∧
      (site.step directory event).Marked directory raised := by
  cases event with
  | call call failures => exact marked.call call failures
  | start settings failures =>
      exact ⟨txid, Nat.le_refl _, marked.start settings failures⟩

/-- The checkpoint id of a site only rises, whatever happens. -/
theorem Marked.run
    (marked : site.Marked directory txid)
    (events : List Event) :
    ∃ raised, txid ≤ raised ∧
      (site.run directory events).Marked directory raised := by
  induction events generalizing site txid with
  | nil => exact ⟨txid, Nat.le_refl _, marked⟩
  | cons event events hypothesis =>
      obtain ⟨between, first, stepped⟩ := marked.step event
      obtain ⟨raised, rest, isRun⟩ := hypothesis stepped
      exact ⟨raised, Nat.le_trans first rest, isRun⟩

/-- Whatever is asked of the Primaries that are started on a data directory one
after the other, and whatever steps of the disk fail: the persisted checkpoint
id can always be loaded, never falls, and is the one in force in the Primary
that runs, which answers every report with what comes of it. -/
theorem run_watermark
    {disk : Disk}
    (loaded : load directory disk = .ok txid)
    (events more : List Event) :
    let site := run directory ⟨disk, none⟩ events
    ∃ current later, load directory site.disk = .ok current ∧
      load directory (site.run directory more).disk = .ok later ∧
      txid ≤ current ∧ current ≤ later ∧
      ∀ primary ∈ site.running, primary.checkpointTxid = current ∧
        ∀ (reported : UInt64) (failures : Nat → Option Disk.Failure),
          let disk := site.disk.failing failures
          primary.Answers disk reported.toNat
            (primary.updateCheckpoint disk reported.toNat) := by
  intro site
  have initial : Marked directory ⟨disk, none⟩ txid := ⟨loaded, nofun⟩
  obtain ⟨current, risen, marked⟩ := initial.run events
  obtain ⟨later, grown, isRun⟩ := marked.run more
  refine ⟨current, later, marked.persisted, isRun.persisted, risen, grown,
    fun primary isRunning =>
      ⟨marked.inForce isRunning, fun reported failures => ?_⟩⟩
  have agrees := (marked.running primary isRunning).2.failing failures
  exact agrees.answers (toNat_le_max reported)
    (primary.settles_updateCheckpoint _ _)

/-- A checkpoint id that cannot be saved at first, and whose segment cannot be
deleted then. -/
def hampered : List Event :=
  [.start (.ofDirectory ".") fun _ => none,
    .call (.mutate (.makeDirectory "/a")) fun _ => none,
    .call (.write .roll) fun _ => none,
    .call (.report 1) fun _ => some ⟨.other "", 0⟩,
    .call (.report 1) fun tried => if tried = 10 then some ⟨.other "", 0⟩ else
      none]

/-- It is in force all the same, and behind another start. -/
theorem run_watermark_hampered :
    let site := run "." ⟨Disk.empty, none⟩ hampered
    site.disk.has ["edits", "1_1.log"] = true ∧
      load "." site.disk = .ok 1 ∧
      (∃ primary ∈ site.running, primary.checkpointTxid = 1) ∧
      ∃ later, 1 ≤ later ∧
        load "." (site.run "." [.call .close fun _ => none,
          .start (.ofDirectory ".") fun _ => none]).disk = .ok later := by
  intro site
  have outcome : site.running.map (fun primary => primary.checkpointTxid) =
      some 1 ∧
      site.disk.has ["edits", "1_1.log"] = true := by decide +kernel
  obtain ⟨inForce, left⟩ := outcome
  have loaded : load "." Disk.empty = .ok 0 := by
    rw [load, Checkpoint.Store.load, if_neg (by decide +kernel)]
  obtain ⟨current, later, isCurrent, isLater, -, risen, running⟩ :=
    run_watermark loaded hampered
      [.call .close fun _ => none, .start (.ofDirectory ".") fun _ => none]
  obtain ⟨primary, isRunning, isOne⟩ := Option.map_eq_some_iff.mp inForce
  have agreed := (running primary isRunning).1
  rw [isOne] at agreed
  subst agreed
  exact ⟨left, isCurrent, ⟨primary, isRunning, isOne⟩, later, risen, isLater⟩

end Site

end Primary
end NameService
