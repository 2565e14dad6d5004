import NameService.Proofs.Primary.Standing

/-!
# Uploads at the same time

Every connection to the image channel has a handler of its own, and the file
steps of the handlers may interleave in any way. They all write the image by way
of one scratch file. As long as no handler makes that file while another one has
it in hand, the image is replaced as a whole by images that are valid, each by
the handler that acknowledges it.
-/

namespace NameService
namespace Upload

/-! ## Handlers -/

/-- How far the handler of a connection has come. A file that is open is known
by where it stands, if it still stands anywhere. -/
inductive Stage
  /-- The stream was read. -/
  | arrived (stream : Bytes)
  /-- The image passed the checks. -/
  | checked (content : Bytes) (txid : Nat)
  /-- The scratch file was made, and is open. -/
  | opened (content : Bytes) (txid : Nat) (file : Option Location)
  /-- The image was written to the open file. -/
  | written (content : Bytes) (txid : Nat) (file : Option Location)
  /-- The open file was made durable, and was closed. -/
  | synced (content : Bytes) (txid : Nat)
  /-- The scratch file was moved over the image, and the upload was
  acknowledged. -/
  | stored (content : Bytes) (txid : Nat)
  /-- The connection was dropped. -/
  | refused (cause : ServiceError)

/-- What was sent on a connection is a content that decodes to an image of a
transaction id. -/
def Delivers (sent : Option Bytes) (content : Bytes) (txid : Nat) : Prop :=
  ∃ stream, sent = some stream ∧ payload stream = .ok content ∧
    ∃ image, Image.decode content = .ok image ∧ image.txid = txid

namespace Stage

/-- Whether a handler has made the scratch file and not moved it yet. -/
def isWriting : Stage → Bool
  | .opened _ _ _ => true
  | .written _ _ _ => true
  | .synced _ _ => true
  | _ => false

/-- Where an open file stands once the scratch file was moved over the image. -/
def moved (scratch image : Location) (file : Option Location) :
    Option Location :=
  if file = some scratch then some image else if file = some image then
    none else file

/-- What becomes of a stage when the scratch file is moved over the image. -/
def follow (scratch image : Location) : Stage → Stage
  | .opened content txid file => .opened content txid (moved scratch image file)
  | .written content txid file =>
      .written content txid (moved scratch image file)
  | stage => stage

/-- The scratch file holds what a handler has written. -/
def Ready (scratch : Location) (disk : Disk) : Stage → Prop
  | .opened _ _ file =>
      file = some scratch ∧ disk.item? scratch = some (.file [])
  | .written content _ file =>
      file = some scratch ∧ disk.item? scratch = some (.file content)
  | .synced content _ => disk.item? scratch = some (.file content)
  | _ => True

/-- A handler that does not write needs no file. -/
theorem Ready.of_idle
    {stage : Stage}
    (idle : stage.isWriting = false)
    (scratch : Location)
    (disk : Disk) :
    stage.Ready scratch disk := by
  cases stage with
  | opened content txid file => cases idle
  | written content txid file => cases idle
  | synced content txid => cases idle
  | _ => trivial

/-- A handler works on what was sent on its connection, and on valid images
only. -/
def Valid (sent : Option Bytes) : Stage → Prop
  | .arrived stream => sent = some stream
  | .checked content txid => Delivers sent content txid
  | .opened content txid _ => Delivers sent content txid
  | .written content txid _ => Delivers sent content txid
  | .synced content txid => Delivers sent content txid
  | .stored content txid => Delivers sent content txid
  | .refused _ => True

/-- The answer of a handler that is done. -/
def answer? : Stage → Option (Except ServiceError Nat)
  | .stored _ txid => some (.ok txid)
  | .refused cause => some (.error cause)
  | _ => none

end Stage

/-- The image channel of a Primary, with a handler for every connection. -/
structure Channel where
  disk : Disk
  handlers : List Stage
  /-- Whether the scratch file was made while another handler had it in hand. -/
  overlapped : Bool
  /-- Who moved the scratch file over the image, and what the image then was. -/
  installed : List (Nat × Option Disk.Item)

namespace Channel

/-- A channel on which streams have arrived. -/
def start (disk : Disk) (streams : List Bytes) : Channel :=
  ⟨disk, streams.map .arrived, false, []⟩

/-- A handler is in a stage. -/
def At (channel : Channel) (who : Nat) (stage : Stage) : Prop :=
  channel.handlers[who]? = some stage

/-- What the handler of a connection answered, if it is done. -/
def answer? (channel : Channel) (who : Nat) :
    Option (Except ServiceError Nat) :=
  (channel.handlers[who]?).bind Stage.answer?

/-- A handler enters a stage. -/
def enter (channel : Channel) (who : Nat) (stage : Stage) : Channel :=
  { channel with handlers := channel.handlers.set who stage }

/-- A handler tries a step, and gives up if it fails. -/
def attempt
    (channel : Channel)
    (who : Nat)
    (step : Disk.Step)
    (next : Channel → Channel) : Channel :=
  match channel.disk.perform step with
  | (disk, .error cause) =>
      ({ channel with disk := disk }).enter who (.refused (.file cause))
  | (disk, .ok ()) => next { channel with disk := disk }

/-- A handler tries a step on its open file. On a file that stands nowhere any
more it succeeds and leaves no trace. -/
def attemptOpen
    (channel : Channel)
    (who : Nat)
    (file : Option Location)
    (step : Location → Disk.Step)
    (next : Channel → Channel) : Channel :=
  match file with
  | none => next channel
  | some place => channel.attempt who (step place) next

/-- What the checks make of a stream. -/
def judge (disk : Disk) (store : Checkpoint.Store) (stream : Bytes) : Stage :=
  match payload stream with
  | .error cause => .refused cause
  | .ok content =>
      match check disk store content with
      | .error cause => .refused cause
      | .ok txid => .checked content txid

/-- A handler has made the scratch file. -/
def make
    (settings : Settings)
    (who : Nat)
    (content : Bytes)
    (txid : Nat)
    (channel : Channel) : Channel :=
  ({ channel with
    overlapped :=
      channel.overlapped || channel.handlers.any Stage.isWriting }).enter who
    (.opened content txid (some (Disk.scratch settings.imageLocation)))

/-- A handler has moved the scratch file over the image. -/
def install
    (settings : Settings)
    (who : Nat)
    (content : Bytes)
    (txid : Nat)
    (channel : Channel) : Channel :=
  ({ channel with
    handlers := channel.handlers.map
      (Stage.follow (Disk.scratch settings.imageLocation)
        settings.imageLocation)
    installed := channel.installed ++
      [(who, channel.disk.item? settings.imageLocation)] }).enter who
    (.stored content txid)

/-- What a channel is after one more step of a handler. -/
def step (settings : Settings) (channel : Channel) (who : Nat) : Channel :=
  match channel.handlers[who]? with
  | none => channel
  | some (.arrived stream) =>
      channel.enter who (judge channel.disk settings.checkpointStore stream)
  | some (.checked content txid) =>
      channel.attempt who (.create (Disk.scratch settings.imageLocation))
        (make settings who content txid)
  | some (.opened content txid file) =>
      channel.attemptOpen who file (fun place => .write place content)
        (enter · who (.written content txid file))
  | some (.written content txid file) =>
      channel.attemptOpen who file .sync (enter · who (.synced content txid))
  | some (.synced content txid) =>
      channel.attempt who
        (.rename (Disk.scratch settings.imageLocation) settings.imageLocation)
        (install settings who content txid)
  | some (.stored _ _) => channel
  | some (.refused _) => channel

/-- What a channel is after handlers have taken steps in some order. -/
def run (settings : Settings) (channel : Channel) (schedule : List Nat) :
    Channel :=
  schedule.foldl (step settings) channel

/-! ## A handler that is left alone -/

variable {settings : Settings} {channel : Channel} {who : Nat}

variable {content : Bytes} {txid : Nat} {place : Location}

theorem step_of_arrived
    {stream : Bytes}
    (present : channel.handlers[who]? = some (.arrived stream)) :
    channel.step settings who =
      channel.enter who
        (judge channel.disk settings.checkpointStore stream) := by
  rw [step, present]

theorem step_of_checked
    (present : channel.handlers[who]? = some (.checked content txid)) :
    channel.step settings who =
      channel.attempt who (.create (Disk.scratch settings.imageLocation))
        (make settings who content txid) := by
  rw [step, present]

theorem step_of_opened
    (present : channel.handlers[who]? =
      some (.opened content txid (some place))) :
    channel.step settings who =
      channel.attempt who (.write place content)
        (enter · who (.written content txid (some place))) := by
  rw [step, present]
  rfl

theorem step_of_written
    (present : channel.handlers[who]? =
      some (.written content txid (some place))) :
    channel.step settings who =
      channel.attempt who (.sync place)
        (enter · who (.synced content txid)) := by
  rw [step, present]
  rfl

theorem step_of_synced
    (present : channel.handlers[who]? = some (.synced content txid)) :
    channel.step settings who =
      channel.attempt who
        (.rename (Disk.scratch settings.imageLocation) settings.imageLocation)
        (install settings who content txid) := by
  rw [step, present]

/-- The answer of a handler is that of its stage. -/
theorem answer?_of_at
    {stage : Stage}
    (present : channel.handlers[who]? = some stage) :
    channel.answer? who = stage.answer? := by
  rw [answer?, present]
  rfl

/-- A handler that enters a stage is in it. -/
theorem set_self
    {handlers : List Stage}
    {old : Stage}
    (present : handlers[who]? = some old)
    (stage : Stage) :
    (handlers.set who stage)[who]? = some stage :=
  List.getElem?_set_self (List.getElem?_eq_some_iff.mp present).1

theorem run_replicate_succ
    (settings : Settings)
    (channel : Channel)
    (who count : Nat) :
    channel.run settings (List.replicate (count + 1) who) =
      (channel.step settings who).run settings (List.replicate count who) := rfl

/-- A handler that is done takes no more steps. -/
theorem run_of_answered
    {stage : Stage}
    (present : channel.handlers[who]? = some stage)
    (answered : stage.answer?.isSome = true)
    (count : Nat) :
    channel.run settings (List.replicate count who) = channel := by
  have stays : channel.step settings who = channel := by
    cases stage with
    | stored content txid => simp only [step, present]
    | refused cause => simp only [step, present]
    | _ => cases answered
  induction count with
  | zero => rfl
  | succ count hypothesis => rw [run_replicate_succ, stays, hypothesis]

/-- Left alone for so many steps, a handler does these steps of the disk and
answers with a transaction id if they succeed. -/
def Finishes
    (settings : Settings)
    (channel : Channel)
    (who count : Nat)
    (steps : List Disk.Step)
    (txid : Nat) : Prop :=
  let after := channel.run settings (List.replicate count who)
  after.disk = (channel.disk.performAll steps).1 ∧
    after.answer? who =
      some (((channel.disk.performAll steps).2.mapError ServiceError.file).map
        fun _ => txid)

/-- A handler that tries a step finishes if it does so behind it. -/
theorem finishes_of_attempt
    {old : Stage}
    (present : channel.handlers[who]? = some old)
    {step : Disk.Step}
    {next : Channel → Channel}
    (tried : channel.step settings who = channel.attempt who step next)
    {count txid : Nat}
    {steps : List Disk.Step}
    (goesOn : ∀ disk, (next { channel with disk := disk }).disk = disk ∧
      Finishes settings (next { channel with disk := disk }) who count steps
        txid) :
    Finishes settings channel who (count + 1) (step :: steps) txid := by
  rw [Finishes, run_replicate_succ, tried, attempt, Disk.performAll]
  cases performed : channel.disk.perform step with
  | mk disk answer =>
      cases answer with
      | error cause =>
          have refused : (({ channel with disk := disk } : Channel).enter who
              (.refused (.file cause))).handlers[who]? =
              some (.refused (.file cause)) :=
            set_self present _
          simp only [run_of_answered refused rfl]
          exact ⟨rfl, answer?_of_at refused⟩
      | ok _ =>
          obtain ⟨sameDisk, finishes⟩ := goesOn disk
          rw [Finishes, sameDisk] at finishes
          exact finishes

/-- A handler whose image passed the checks replaces the stored one. -/
theorem finishes_of_checked
    (present : channel.handlers[who]? = some (.checked content txid)) :
    Finishes settings channel who 4
      (Disk.replaceSteps (Disk.scratch settings.imageLocation)
        settings.imageLocation content) txid := by
  refine finishes_of_attempt present (step_of_checked present) fun disk =>
    ⟨rfl, ?_⟩
  have opened :
      (make settings who content txid
          { channel with disk := disk }).handlers[who]? =
      some (.opened content txid
        (some (Disk.scratch settings.imageLocation))) :=
    set_self present _
  refine finishes_of_attempt opened (step_of_opened opened) fun disk =>
    ⟨rfl, ?_⟩
  have written := set_self opened
    (.written content txid (some (Disk.scratch settings.imageLocation)))
  refine finishes_of_attempt written (step_of_written written) fun disk =>
    ⟨rfl, ?_⟩
  have synced := set_self written (.synced content txid)
  refine finishes_of_attempt synced (step_of_synced synced) fun disk =>
    ⟨rfl, rfl, ?_⟩
  have moved :=
    (List.getElem?_map
      (f :=
        Stage.follow (Disk.scratch settings.imageLocation)
          settings.imageLocation)).trans (congrArg (Option.map _) synced)
  exact congrArg (Option.bind · Stage.answer?)
    (set_self moved (.stored content txid))

/-- A handler that takes all its steps without another one in between does what
`receive` does. -/
theorem run_alone
    {stream : Bytes}
    (present : channel.handlers[who]? = some (.arrived stream)) :
    let after := channel.run settings (List.replicate 5 who)
    let received :=
      receive channel.disk settings.imageLocation settings.checkpointStore
        stream
    after.disk = received.1 ∧ after.answer? who = some received.2 := by
  have judged : (channel.enter who
      (judge channel.disk settings.checkpointStore stream)).handlers[who]? =
      some (judge channel.disk settings.checkpointStore stream) :=
    set_self present _
  rw [run_replicate_succ, step_of_arrived present]
  unfold receive
  unfold judge at judged ⊢
  cases arrived : payload stream with
  | error cause =>
      simp only [arrived] at judged ⊢
      rw [run_of_answered judged rfl]
      exact ⟨rfl, answer?_of_at judged⟩
  | ok content =>
      simp only [arrived] at judged ⊢
      cases isChecked : check channel.disk settings.checkpointStore content with
      | error cause =>
          simp only [isChecked] at judged ⊢
          rw [run_of_answered judged rfl]
          exact ⟨rfl, answer?_of_at judged⟩
      | ok txid =>
          simp only [isChecked] at judged ⊢
          obtain ⟨disk, answer⟩ := finishes_of_checked judged
          rw [disk, answer]
          cases replaced :
            channel.disk.replace settings.imageLocation content with
          | mk after outcome =>
              have same : (channel.enter who
                  (.checked content txid)).disk.performAll
                  (Disk.replaceSteps (Disk.scratch settings.imageLocation)
                    settings.imageLocation content) = (after, outcome) :=
                    replaced
              rw [same]
              cases outcome <;> exact ⟨rfl, rfl⟩

/-! ## Handlers that do not overlap -/

/-- Every handler that writes has the scratch file to itself, and what was moved
over the image is valid and is acknowledged by the handler whose image it is. -/
structure Orderly
    (settings : Settings)
    (before : Disk)
    (streams : List Bytes)
    (channel : Channel) : Prop where
  /-- While one handler writes, the others do not. -/
  alone : ∀ {who stage}, channel.At who stage → stage.isWriting = true →
    ∀ {other idle}, other ≠ who → channel.At other idle → idle.isWriting = false
  /-- The scratch file holds what its handler has written. -/
  ready : ∀ {who stage}, channel.At who stage →
    stage.Ready (Disk.scratch settings.imageLocation) channel.disk
  /-- Every handler works on what was sent to it. -/
  valid : ∀ {who stage}, channel.At who stage → stage.Valid streams[who]?
  /-- The image is the one before, or one that is acknowledged. -/
  image : channel.disk.item? settings.imageLocation =
    before.item? settings.imageLocation ∨
    ∃ who content txid, channel.At who (.stored content txid) ∧
      channel.disk.item? settings.imageLocation = some (.file content)
  /-- Who acknowledges has installed its own image. -/
  own : ∀ {who content txid}, channel.At who (.stored content txid) →
    (who, some (.file content)) ∈ channel.installed

variable {before : Disk} {streams : List Bytes}

theorem orderly_start
    (settings : Settings)
    (disk : Disk)
    (streams : List Bytes) :
    (start disk streams).Orderly settings disk streams := by
  have arrived : ∀ {who stage}, (start disk streams).At who stage →
      ∃ stream, streams[who]? = some stream ∧ stage = .arrived stream := by
    intro who stage present
    obtain ⟨stream, sent, rfl⟩ :=
      Option.map_eq_some_iff.mp (List.getElem?_map.symm.trans present)
    exact ⟨stream, sent, rfl⟩
  refine ⟨fun present writing => ?_, fun present => ?_, fun present => ?_,
    .inl rfl,
    fun present => ?_⟩
  all_goals obtain ⟨stream, sent, isArrived⟩ := arrived present
  · rw [isArrived] at writing
    cases writing
  · rw [isArrived]
    trivial
  · rw [isArrived]
    exact sent
  · cases isArrived

/-- A handler may enter a stage that acknowledges nothing if the image stays,
and the others that write go on having the scratch file to themselves. -/
theorem Orderly.enter
    (orderly : channel.Orderly settings before streams)
    {old : Stage}
    (present : channel.At who old)
    (notStored : ∀ content txid, old ≠ .stored content txid)
    {disk : Disk}
    (sameImage : disk.item? settings.imageLocation =
      channel.disk.item? settings.imageLocation)
    {stage : Stage}
    (unstored : ∀ content txid, stage ≠ .stored content txid)
    (valid : stage.Valid streams[who]?)
    (ready : stage.Ready (Disk.scratch settings.imageLocation) disk)
    (others : ∀ {other idle}, other ≠ who → channel.At other idle →
      idle.Ready (Disk.scratch settings.imageLocation) disk ∧
        (stage.isWriting = true → idle.isWriting = false)) :
    (({ channel with disk := disk }).enter who stage).Orderly settings before
      streams := by
  let after := ({ channel with disk := disk } : Channel).enter who stage
  -- Whoever is in the new channel is the handler that moved, or was there
  -- before.
  have cases_ : ∀ {other idle}, after.At other idle →
      (other = who ∧ idle = stage) ∨ (other ≠ who ∧ channel.At other idle) := by
    intro other idle there
    by_cases same : other = who
    · subst same
      exact .inl
        ⟨rfl,
          (Option.some.inj ((set_self present stage).symm.trans there)).symm⟩
    · exact .inr ⟨same, (List.getElem?_set_ne (Ne.symm same)).symm.trans there⟩
  have stays : ∀ {other content txid}, channel.At other (.stored content txid) →
      after.At other (.stored content txid) := by
    intro other content txid there
    have isOther : who ≠ other := by
      rintro rfl
      exact notStored content txid (Option.some.inj (present.symm.trans there))
    exact (List.getElem?_set_ne isOther).trans there
  refine ⟨fun there writing _ _ isOther alsoThere => ?_, fun there => ?_,
    fun there => ?_, ?_,
    fun there => ?_⟩
  · rcases cases_ there with ⟨rfl, rfl⟩ | ⟨notWho, wasThere⟩
    · rcases cases_ alsoThere with ⟨same, -⟩ | ⟨-, wasThere⟩
      · exact absurd same isOther
      · exact (others isOther wasThere).2 writing
    · rcases cases_ alsoThere with ⟨rfl, rfl⟩ | ⟨-, alsoWasThere⟩
      · by_contra alsoWriting
        have notWriting :=
          (others notWho wasThere).2 (by simpa using alsoWriting)
        rw [notWriting] at writing
        cases writing
      · exact orderly.alone wasThere writing isOther alsoWasThere
  · rcases cases_ there with ⟨rfl, rfl⟩ | ⟨isOther, there⟩
    · exact ready
    · exact (others isOther there).1
  · rcases cases_ there with ⟨rfl, rfl⟩ | ⟨isOther, there⟩
    · exact valid
    · exact orderly.valid there
  · rcases orderly.image with unchanged | ⟨other, content, txid, isStored, held⟩
    · exact .inl (sameImage.trans unchanged)
    · exact .inr ⟨other, content, txid, stays isStored, sameImage.trans held⟩
  · rcases cases_ there with ⟨rfl, isStage⟩ | ⟨isOther, there⟩
    · exact absurd isStage.symm (unstored _ _)
    · exact orderly.own there

/-- A handler may give up, though its last step was counted. -/
theorem Orderly.refuse
    (orderly : channel.Orderly settings before streams)
    {old : Stage}
    (present : channel.At who old)
    (notStored : ∀ content txid, old ≠ .stored content txid)
    (clock : Nat)
    (cause : ServiceError) :
    (({ channel with disk := { channel.disk with clock := clock } }).enter who
      (.refused cause)).Orderly settings before streams := by
  have valid : (Stage.refused cause).Valid streams[who]? := trivial
  have ready : (Stage.refused cause).Ready (Disk.scratch settings.imageLocation)
      { channel.disk with clock := clock } := trivial
  have unstored : ∀ content txid,
      Stage.refused cause ≠ .stored content txid := by simp
  refine orderly.enter present notStored ?_ unstored valid ready fun _ there =>
    ⟨?_, nofun⟩
  · rfl
  · exact orderly.ready there

/-- A handler that writes may enter another stage if the image stays, since no
other one writes. -/
theorem Orderly.proceed
    (orderly : channel.Orderly settings before streams)
    {old : Stage}
    (present : channel.At who old)
    (writing : old.isWriting = true)
    {disk : Disk}
    (sameImage : disk.item? settings.imageLocation =
      channel.disk.item? settings.imageLocation)
    {stage : Stage}
    (unstored : ∀ content txid, stage ≠ .stored content txid)
    (valid : stage.Valid streams[who]?)
    (ready : stage.Ready (Disk.scratch settings.imageLocation) disk) :
    (({ channel with disk := disk }).enter who stage).Orderly settings before
      streams := by
  refine orderly.enter present ?_ sameImage unstored valid ready
    fun isOther there => ?_
  · rintro content txid rfl
    cases writing
  · have idle := orderly.alone present writing isOther there
    exact ⟨.of_idle idle _ _, fun _ => idle⟩

/-- A handler that writes may try a step that leaves the image alone, and give
up if it fails. -/
theorem Orderly.attempt
    (orderly : channel.Orderly settings before streams)
    {old stage : Stage}
    (present : channel.At who old)
    (writing : old.isWriting = true)
    {step : Disk.Step}
    (untouched : settings.imageLocation ∉ step.touches)
    (unstored : ∀ content txid, stage ≠ .stored content txid)
    (valid : stage.Valid streams[who]?)
    (ready : ∀ disk,
      { channel.disk with clock := channel.disk.clock + 1 }.effect step =
        .ok disk →
      stage.Ready (Disk.scratch settings.imageLocation) disk) :
    (channel.attempt who step fun channel => channel.enter who stage).Orderly
      settings before streams := by
  have frame := channel.disk.item?_perform untouched
  unfold Channel.attempt
  split
  · rename_i disk cause failed
    rw [failed] at frame
    exact orderly.proceed present writing frame (by simp) trivial trivial
  · rename_i disk done
    rw [done] at frame
    exact orderly.proceed present writing frame unstored valid
      (ready disk (Disk.effect_of_perform_ok done))

/-- Handlers that do not write do not mind that the scratch file is moved. -/
theorem follow_of_idle
    {stage : Stage}
    (idle : stage.isWriting = false)
    (scratch image : Location) :
    stage.follow scratch image = stage := by
  cases stage with
  | opened content txid file => cases idle
  | written content txid file => cases idle
  | _ => rfl

/-- The scratch file is moved over the image by the handler that wrote it. -/
theorem Orderly.install
    (orderly : channel.Orderly settings before streams)
    (present : channel.At who (.synced content txid))
    {disk : Disk}
    (held : disk.item? settings.imageLocation = some (.file content)) :
    (Channel.install settings who content txid
      { channel with disk := disk }).Orderly settings before streams := by
  let after :=
    Channel.install settings who content txid { channel with disk := disk }
  have moved : (channel.handlers.map
      (Stage.follow (Disk.scratch settings.imageLocation)
        settings.imageLocation))[who]? = some (.synced content txid) := by
    rw [List.getElem?_map, show channel.handlers[who]? = _ from present]
    rfl
  have isStored : after.At who (.stored content txid) := set_self moved _
  have cases_ : ∀ {other idle}, after.At other idle →
      (other = who ∧ idle = .stored content txid) ∨
        (other ≠ who ∧ channel.At other idle ∧ idle.isWriting = false) := by
    intro other idle there
    by_cases same : other = who
    · subst same
      exact .inl ⟨rfl, (Option.some.inj (isStored.symm.trans there)).symm⟩
    · have wasThere := (List.getElem?_set_ne (Ne.symm same)).symm.trans there
      rw [List.getElem?_map, Option.map_eq_some_iff] at wasThere
      obtain ⟨idle, wasThere, rfl⟩ := wasThere
      have isIdle := orderly.alone present rfl same wasThere
      rw [follow_of_idle isIdle]
      exact .inr ⟨same, wasThere, isIdle⟩
  have idle : ∀ {other stage}, after.At other stage →
      stage.isWriting = false := by
    intro other stage there
    rcases cases_ there with ⟨-, rfl⟩ | ⟨-, -, isIdle⟩
    · rfl
    · exact isIdle
  refine ⟨fun there writing => ?_, fun there => .of_idle (idle there) _ _,
    fun there => ?_, .inr ⟨who, content, txid, isStored, held⟩, fun there => ?_⟩
  · rw [idle there] at writing
    cases writing
  · rcases cases_ there with ⟨rfl, rfl⟩ | ⟨-, wasThere, -⟩
    · have valid := orderly.valid present
      exact valid
    · exact orderly.valid wasThere
  · rcases cases_ there with ⟨rfl, same⟩ | ⟨-, wasThere, -⟩
    · obtain ⟨rfl, rfl⟩ := Stage.stored.inj same
      exact List.mem_append_right _ (held ▸ List.mem_cons_self)
    · exact List.mem_append_left _ (orderly.own wasThere)

/-- A stream is refused, or its image is valid. -/
theorem judge_cases (disk : Disk) (store : Checkpoint.Store) (stream : Bytes) :
    (∃ cause, judge disk store stream = .refused cause) ∨
      ∃ content txid, judge disk store stream = .checked content txid ∧
        Delivers (some stream) content txid := by
  unfold judge
  split
  · exact .inl ⟨_, rfl⟩
  · rename_i content arrived
    unfold check
    cases decoded : Image.decode content with
    | error cause => exact .inl ⟨_, rfl⟩
    | ok image =>
        simp only
        cases store.load disk with
        | error cause => exact .inl ⟨_, rfl⟩
        | ok floor =>
            simp only
            by_cases old : image.txid < floor
            · rw [if_pos old]
              exact .inl ⟨_, rfl⟩
            · rw [if_neg old]
              exact .inr
                ⟨content, image.txid, rfl, stream, rfl, arrived, image, decoded,
                  rfl⟩

/-- A stream is checked while others write. -/
theorem Orderly.judge
    (orderly : channel.Orderly settings before streams)
    {stream : Bytes}
    (present : channel.At who (.arrived stream)) :
    (channel.enter who
      (Channel.judge channel.disk settings.checkpointStore stream)).Orderly
      settings before streams := by
  rcases judge_cases channel.disk settings.checkpointStore stream with
    ⟨cause, judged⟩ | ⟨content, txid, judged, delivers⟩
  · rw [judged]
    exact orderly.refuse present (by simp) channel.disk.clock cause
  · rw [judged]
    have sent : streams[who]? = some stream := orderly.valid present
    exact orderly.enter present (by simp) rfl (by simp) (sent ▸ delivers)
      trivial fun _ there => ⟨orderly.ready there, nofun⟩

/-- The scratch file is made while no handler has it in hand. -/
theorem Orderly.make
    (orderly : channel.Orderly settings before streams)
    (present : channel.At who (.checked content txid))
    (idle : ∀ stage ∈ channel.handlers, stage.isWriting = false)
    {disk : Disk}
    (done :
      channel.disk.perform (.create (Disk.scratch settings.imageLocation)) =
      (disk, .ok ())) :
    (Channel.make settings who content txid
      { channel with disk := disk }).Orderly settings before streams := by
  have untouched : settings.imageLocation ∉
      (Disk.Step.create (Disk.scratch settings.imageLocation)).touches := by
    simp [Disk.Step.touches, Primary.image_ne_scratch]
  have frame := channel.disk.item?_perform untouched
  rw [done] at frame
  have valid := orderly.valid present
  have blank := Disk.item?_create (Disk.effect_of_perform_ok done)
  have opened := orderly.enter present (by simp) frame
    (show ∀ other otherTxid, Stage.opened content txid
      (some (Disk.scratch settings.imageLocation)) ≠ .stored other otherTxid by
        simp)
    valid ⟨rfl, blank⟩ fun _ there =>
      have isIdle := idle _ (List.mem_of_getElem? there)
      ⟨.of_idle isIdle _ _, fun _ => isIdle⟩
  exact ⟨opened.alone, opened.ready, opened.valid, opened.image, opened.own⟩

/-- Every step keeps the handlers orderly, unless one makes the scratch file
that another one has in hand. -/
theorem Orderly.step
    (orderly : channel.Orderly settings before streams)
    (apart : (channel.step settings who).overlapped = false) :
    (channel.step settings who).Orderly settings before streams := by
  cases isAt : channel.handlers[who]? with
  | none =>
      rw [Channel.step, isAt]
      exact orderly
  | some stage =>
      have ready := orderly.ready isAt
      have valid := orderly.valid isAt
      cases stage with
      | arrived stream =>
          rw [step_of_arrived isAt]
          exact orderly.judge isAt
      | checked content txid =>
          rw [step_of_checked isAt] at apart ⊢
          cases performed : channel.disk.perform
              (.create (Disk.scratch settings.imageLocation)) with
          | mk disk answer =>
              simp only [Channel.attempt, performed] at apart ⊢
              cases answer with
              | error cause =>
                  obtain rfl := Disk.eq_of_error performed (by simp)
                  exact orderly.refuse isAt (by simp) _ _
              | ok _ =>
                  refine orderly.make isAt ?_ performed
                  simp only [Channel.make, Channel.enter,
                    Bool.or_eq_false_iff] at apart
                  simpa using apart.2
      | opened content txid file =>
          obtain ⟨rfl, blank⟩ := ready
          rw [step_of_opened isAt]
          refine orderly.attempt isAt rfl ?_ (by simp) valid fun disk done =>
            ⟨rfl, ?_⟩
          · simp [Disk.Step.touches, Primary.image_ne_scratch]
          · exact Disk.item?_write (show { channel.disk with
              clock := channel.disk.clock + 1 }.item? _ = _ from blank) done
      | written content txid file =>
          obtain ⟨rfl, held⟩ := ready
          rw [step_of_written isAt]
          refine orderly.attempt isAt rfl (by simp [Disk.Step.touches])
            (by simp) valid fun disk done => ?_
          obtain rfl := Disk.makes_of_effect done
          exact held
      | synced content txid =>
          rw [step_of_synced isAt]
          cases performed : channel.disk.perform
              (.rename (Disk.scratch settings.imageLocation)
                settings.imageLocation) with
          | mk disk answer =>
              simp only [Channel.attempt, performed]
              cases answer with
              | error cause =>
                  obtain rfl := Disk.eq_of_error performed (by simp)
                  exact orderly.refuse isAt (by simp) _ _
              | ok _ =>
                  have held : { channel.disk with
                      clock := channel.disk.clock + 1 }.item?
                      (Disk.scratch settings.imageLocation) =
                      some (.file content) := ready
                  exact orderly.install isAt
                    (Disk.item?_rename held
                      (Disk.effect_of_perform_ok performed))
      | stored content txid =>
          rw [Channel.step, isAt]
          exact orderly
      | refused cause =>
          rw [Channel.step, isAt]
          exact orderly

/-- The scratch file, once it was made too early, stays so. -/
theorem overlapped_of_step
    (stillApart : (channel.step settings who).overlapped = false) :
    channel.overlapped = false := by
  have attempted : ∀ {step next},
      (∀ channel : Channel, channel.overlapped = true →
        (next channel).overlapped = true) → channel.overlapped = true →
      (channel.attempt who step next).overlapped = true := by
    intro step next goesOn before
    unfold attempt
    split
    · exact before
    · exact goesOn _ before
  rw [← Bool.not_eq_true] at stillApart ⊢
  refine fun before => stillApart ?_
  unfold step
  split
  · exact before
  · exact before
  · exact attempted (fun channel before => by simp [make, enter, before]) before
  · unfold attemptOpen
    split
    · exact before
    · exact attempted (fun _ before => before) before
  · unfold attemptOpen
    split
    · exact before
    · exact attempted (fun _ before => before) before
  · exact attempted (fun _ before => before) before
  · exact before
  · exact before

/-- Every order of steps keeps the handlers orderly, unless one makes the
scratch file that another one has in hand. -/
theorem Orderly.run
    (orderly : channel.Orderly settings before streams)
    {schedule : List Nat}
    (apart : (channel.run settings schedule).overlapped = false) :
    (channel.run settings schedule).Orderly settings before streams := by
  induction schedule using List.reverseRecOn with
  | nil => exact orderly
  | append_singleton schedule who hypothesis =>
      rw [Channel.run, List.foldl_append] at apart ⊢
      exact (hypothesis (overlapped_of_step apart)).step apart

/-- The stored image is never broken: it is the one before, or the whole of a
valid image that was sent and acknowledged, and every handler that acknowledges
has installed what it was sent. -/
structure Whole
    (settings : Settings)
    (before : Disk)
    (streams : List Bytes)
    (channel : Channel) : Prop where
  /-- The image is the one before, or one that was sent and acknowledged. -/
  image : channel.disk.item? settings.imageLocation =
    before.item? settings.imageLocation ∨
    ∃ who content txid, channel.answer? who = some (.ok txid) ∧
      Delivers streams[who]? content txid ∧
      channel.disk.item? settings.imageLocation = some (.file content)
  /-- Who acknowledges has installed what it was sent. -/
  own : ∀ {who txid}, channel.answer? who = some (.ok txid) →
    ∃ content, Delivers streams[who]? content txid ∧
      (who, some (.file content)) ∈ channel.installed

/-- A handler that acknowledges has stored its image. -/
theorem at_of_answer (answered : channel.answer? who = some (.ok txid)) :
    ∃ content, channel.At who (.stored content txid) := by
  obtain ⟨stage, present, said⟩ := Option.bind_eq_some_iff.mp answered
  cases stage with
  | stored content own =>
      obtain rfl : own = txid := by simpa [Stage.answer?] using said
      exact ⟨content, present⟩
  | refused cause => simp [Stage.answer?] at said
  | _ => cases said

/-- As long as the handlers are orderly, the stored image is not broken. -/
theorem Orderly.whole (orderly : channel.Orderly settings before streams) :
    channel.Whole settings before streams where
  image := by
    refine orderly.image.imp_right ?_
    rintro ⟨who, content, txid, isStored, held⟩
    exact ⟨who, content, txid, answer?_of_at isStored, orderly.valid isStored,
      held⟩
  own := by
    intro who txid answered
    obtain ⟨content, isStored⟩ := at_of_answer answered
    exact ⟨content, orderly.valid isStored, orderly.own isStored⟩

/-- Whatever was sent to however many handlers, in whatever order they take
their steps, and whichever steps fail: as long as none makes the scratch file
while another one has it in hand, the stored image is never broken. -/
theorem run_whole
    (disk : Disk)
    (settings : Settings)
    (streams : List Bytes)
    (schedule : List Nat)
    (apart : ((start disk streams).run settings schedule).overlapped = false) :
    ((start disk streams).run settings schedule).Whole settings disk streams :=
  ((orderly_start settings disk streams).run apart).whole

/-- The image of a directory, and that of two, as they are sent. -/
def twoImages : List Bytes :=
  [frame (Image.encode 1 (Tree.ofHistory [.makeDirectory "/a"] 1)),
    frame (Image.encode 2
      (Tree.ofHistory [.makeDirectory "/a", .makeDirectory "/b"] 2))]

/-- Two handlers check their images before the first one writes, and both are
stored. -/
theorem run_whole_in_turn :
    let channel := (start Disk.empty twoImages).run (Settings.ofDirectory ".")
      [0, 1, 0, 0, 0, 0, 1, 1, 1, 1]
    channel.installed.map Prod.fst = [0, 1] ∧
      channel.Whole (Settings.ofDirectory ".") Disk.empty twoImages :=
  ⟨by decide +kernel, run_whole Disk.empty (Settings.ofDirectory ".") twoImages
    [0, 1, 0, 0, 0, 0, 1, 1, 1, 1] (by decide +kernel)⟩

/-- The second handler makes the scratch file anew when the first one has
written it and is about to move it. -/
def entangled : Channel :=
  (start Disk.empty twoImages).run (Settings.ofDirectory ".")
    [0, 0, 0, 0, 1, 1, 0]

/-- An empty file becomes the image, and is acknowledged in the place of the
valid image that was sent. -/
theorem entangled_breaks :
    entangled.answer? 0 = some (.ok 1) ∧
      entangled.installed = [(0, some (.file []))] ∧
      entangled.disk.item? (Settings.ofDirectory ".").imageLocation =
        some (.file []) ∧
      (∀ who txid : Nat, ¬Delivers twoImages[who]? [] txid) ∧
      ¬entangled.Whole (Settings.ofDirectory ".") Disk.empty twoImages := by
  have outcome : (entangled.answer? 0).map Except.toOption = some (some 1) ∧
      entangled.installed = [(0, some (.file []))] ∧
      entangled.disk.item? (Settings.ofDirectory ".").imageLocation =
        some (.file []) := by
    decide +kernel
  obtain ⟨answered, installed, held⟩ := outcome
  have acknowledged : entangled.answer? 0 = some (.ok 1) := by
    cases said : entangled.answer? 0 with
    | none => simp [said] at answered
    | some answer =>
        cases answer with
        | error cause => simp [said, Except.toOption] at answered
        | ok txid => simpa [said, Except.toOption] using answered
  have invalid : ∀ who txid : Nat, ¬Delivers twoImages[who]? [] txid := by
    rintro who txid ⟨-, -, -, image, decoded, -⟩
    have broken : (Image.decode []).toOption = none := by decide +kernel
    simp [decoded, Except.toOption] at broken
  refine ⟨acknowledged, installed, held, invalid, fun whole => ?_⟩
  obtain ⟨content, delivers, own⟩ := whole.own acknowledged
  rw [installed] at own
  obtain rfl : content = [] := by simpa using own
  exact invalid 0 1 delivers

end Channel
end Upload
end NameService
