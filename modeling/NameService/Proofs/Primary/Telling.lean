import NameService.Proofs.Cluster.Following
import NameService.Proofs.Primary.Service

/-!
# The history that a Primary tells

A Primary tells a history if its tree is what the mutations of the history make,
and whatever it can be fetched from holds records of it. Starting on an empty
data directory it tells one through every run of events, and a run of crashes
and closes before them, in which only images of the history are uploaded, makes
no difference.
-/

namespace NameService

/-- A catalog that is recovered accepts mutations. -/
theorem Catalog.running_of_recover
    {disk after : Disk}
    {directory : Location}
    {segmentSize checkpointTxid : Nat}
    {image : Option Image}
    {catalog : Catalog}
    (recovered : recover disk directory segmentSize image checkpointTxid =
      (after, .ok catalog)) :
    catalog.running = true := by
  unfold recover at recovered
  simp only at recovered
  split at recovered
  · cases recovered
  · split at recovered
    · cases recovered
    · split at recovered
      · cases recovered
      · cases recovered
        rfl

namespace Primary
namespace Service

/-- The history of a Primary: its tree and its last transaction id are those of
the history, and the records at hand for a fetch are records of it. -/
structure Tells (service : Service) (history : List Operation) : Prop where
  whole : service.primary.catalog.appliedTxid = history.length
  tree : service.primary.catalog.tree = Tree.ofHistory history history.length
  records : ∀ record,
    service.primary.fetcher.AtHand ⟨service.primary.catalog.log, service.disk⟩
      record →
      record.Of history

/-- A Primary has logged a history, of which all records in its data directory
are. -/
structure Chronicles
    (settings : Settings)
    (service : Service)
    (history : List Operation) :
    Prop where
  sound : service.Sound settings (Record.Of history)
  whole : service.primary.catalog.appliedTxid = history.length
  tree : service.primary.catalog.tree = Tree.ofHistory history history.length

variable {settings : Settings} {accepts : Record → Prop} {service : Service}
  {history : List Operation}

/-- Only records that are accepted are at hand. -/
theorem Sound.accepts_of_atHand
    (sound : service.Sound settings accepts)
    {record : Record}
    (atHand : service.primary.fetcher.AtHand
      ⟨service.primary.catalog.log, service.disk⟩ record) :
    accepts record := by
  obtain ⟨known, supplied, bounded⟩ := sound.supplied
  obtain ⟨chapters, shelved, whole⟩ := supplied.shelved
  rcases atHand.cases shelved whole supplied.words supplied.caches with
    inBuffers | ⟨-, -, isKnown, -⟩
  · exact sound.buffered record inBuffers
  · exact (bounded record isKnown).2.1

/-- What is logged is told. -/
theorem Chronicles.tells (chronicles : service.Chronicles settings history) :
    service.Tells history :=
  ⟨chronicles.whole, chronicles.tree,
    fun _ atHand => chronicles.sound.accepts_of_atHand atHand⟩

/-- A mutation goes on with the history if it is logged. -/
theorem Chronicles.mutate
    (chronicles : service.Chronicles settings history)
    (operation : Operation)
    (next : service.primary.catalog.appliedTxid < Word.max) :
    ∃ more, ({ service with
      primary := (service.primary.mutate operation).1 }).Chronicles settings
      (history ++ more) := by
  have whole := chronicles.whole
  have grown : service.Sound settings (Record.Of (history ++ [operation])) :=
    chronicles.sound.imp fun record tells => ⟨tells.1, by
      rw [List.getElem?_append_left
        (by have := tells.txid_le; have := tells.1; omega)]
      exact tells.2⟩
  have mutated := grown.mutate operation next ⟨Nat.succ_pos _, by simp [whole]⟩
  rw [mutate_eq] at mutated ⊢
  rcases Catalog.mutate_cases service.primary.catalog operation with
    same | ⟨tree, made, applied, logged⟩
  · rw [same]
    exact ⟨[], by rwa [List.append_nil]⟩
  · rw [logged] at mutated ⊢
    refine ⟨[operation], mutated, ?_, ?_⟩
    · rw [List.length_append, List.length_singleton, ← whole]
      exact Log.lastTxid_append next operation
    · rw [List.length_append, List.length_singleton, Tree.ofHistory_last,
        ← chronicles.tree, Tree.absorb, applied]

/-- What neither mutates nor restarts leaves the tree and the last transaction
id. -/
theorem Sound.step_same
    (sound : service.Sound settings accepts)
    {event : Event}
    (noMutation : ∀ operation, event ≠ .mutate operation)
    (goesOn : event ≠ .restart) :
    ∃ after, service.step event = .ok after ∧
      after.primary.catalog.tree = service.primary.catalog.tree ∧
      after.primary.catalog.appliedTxid =
        service.primary.catalog.appliedTxid := by
  obtain ⟨chapters, archived, -⟩ := sound.archived
  have lastTxid (writing : Log.Writing) (failures : Nat → Option Disk.Failure) :
      (service.primary.catalog.log.write (service.disk.failing failures)
        writing).state.lastTxid =
        service.primary.catalog.log.lastTxid := by
    obtain ⟨added, flushes, -, -⟩ :=
      (archived.failing failures).write sound.word writing
    exact flushes.lastTxid
  cases event with
  | mutate operation => exact absurd rfl (noMutation operation)
  | write writing failures => exact ⟨_, rfl, rfl, lastTxid writing failures⟩
  | upload stream failures => exact ⟨_, rfl, rfl, rfl⟩
  | report txid failures =>
      refine ⟨_, rfl, ?_⟩
      unfold Service.report
      simp only
      rcases service.primary.updateCheckpoint_cases
        (service.disk.failing failures) txid with
        ⟨-, state⟩ | ⟨state, -⟩ | ⟨-, -, saved, -, ⟨-, state⟩ | ⟨-, state⟩⟩
      all_goals
        rw [state]
        exact ⟨rfl, rfl⟩
  | fetch after =>
      refine ⟨_, rfl, ?_⟩
      unfold Primary.fetchEdits
      split <;> exact ⟨rfl, rfl⟩
  | attend fleet => exact ⟨_, rfl, rfl, rfl⟩
  | close failures =>
      obtain ⟨-, state, -⟩ :=
        service.primary.close_eq (service.disk.failing failures)
      refine ⟨_, rfl, ?_⟩
      unfold Service.close
      simp only
      rw [state]
      exact ⟨rfl, lastTxid .forceSync failures⟩
  | restart => exact absurd rfl goesOn

/-- Until the process ends, the history only goes on. -/
theorem Chronicles.step
    (chronicles : service.Chronicles settings history)
    {event : Event}
    (goesOn : event ≠ .restart) :
    ∃ after more, service.step event = .ok after ∧
      after.Chronicles settings (history ++ more) := by
  by_cases isMutation : ∃ operation, event = .mutate operation
  · obtain ⟨operation, rfl⟩ := isMutation
    simp only [Service.step]
    split
    · rename_i next
      obtain ⟨more, mutated⟩ := chronicles.mutate operation next
      exact ⟨_, more, rfl, mutated⟩
    · exact ⟨_, [], rfl, by rwa [List.append_nil]⟩
  · have noMutation : ∀ operation, event ≠ .mutate operation := by
      simpa using isMutation
    obtain ⟨after, stepped, tree, applied⟩ :=
      chronicles.sound.step_same noMutation goesOn
    refine ⟨after, [], stepped, ?_⟩
    rw [List.append_nil]
    exact ⟨chronicles.sound.step
      (fun operation same => absurd same (noMutation operation)) stepped,
      applied.trans chronicles.whole, tree.trans chronicles.tree⟩

/-- Whatever happens until the process ends, the history only goes on. -/
theorem Chronicles.run
    (chronicles : service.Chronicles settings history)
    {events : List Event}
    (goesOn : ∀ event ∈ events, event ≠ .restart) :
    ∃ after more, service.run events = .ok after ∧
      after.Chronicles settings (history ++ more) := by
  have steps : ∀ event ∈ events, ∀ service : Service,
      (∃ more, service.Chronicles settings (history ++ more)) →
      ∃ after, service.step event = .ok after ∧
        ∃ more, after.Chronicles settings (history ++ more) := by
    rintro event present service ⟨first, chronicles⟩
    obtain ⟨after, second, stepped, holds⟩ :=
      chronicles.step (goesOn event present)
    exact ⟨after, stepped, first ++ second, List.append_assoc _ _ _ ▸ holds⟩
  obtain ⟨after, isRun, more, holds⟩ :=
    foldlM_of_allowed steps ⟨[], by rwa [List.append_nil]⟩
  exact ⟨after, more, isRun, holds⟩

/-- A Primary that was opened on an empty data directory has logged nothing. -/
theorem chronicles_started {disk : Disk} (vacant : disk.Vacant settings.home) :
    Chronicles settings ⟨started disk settings, recovered settings [] [] 0 0, 0⟩
      [] :=
  ⟨sound_started vacant _, rfl, rfl⟩

end Service

/-- Until the first restart, a Primary that is started on an empty data
directory tells what it has logged. -/
theorem serve_tells
    {disk : Disk}
    {settings : Settings}
    (reliable : disk.Reliable)
    (vacant : disk.Vacant settings.home)
    {events : List Service.Event}
    {service : Service}
    (served : serve disk settings events = .ok service)
    (goesOn : ∀ event ∈ events, event ≠ .restart) :
    ∃ history, service.Tells history := by
  obtain ⟨after, history, isRun, chronicles⟩ :=
    (Service.chronicles_started vacant).run goesOn
  rw [serve_of_vacant reliable vacant, isRun] at served
  obtain rfl := Except.ok.inj served
  exact ⟨history, chronicles.tells⟩

/-- A process that serves and has not fetched. -/
structure Fresh (settings : Settings) (primary : Primary) : Prop where
  fetcher : primary.fetcher = .new settings.batchSize
  running : primary.catalog.running = true
  closed : primary.closed = false

/-- A new process is fresh. -/
theorem fresh_of_openAt
    {disk after : Disk}
    {settings : Settings}
    {primary : Primary}
    (opened : openAt disk settings = (after, .ok primary)) :
    primary.Fresh settings := by
  obtain ⟨_, _, catalog, -, -, -, recovered, isPrimary⟩ := openAt_eq_ok opened
  rw [isPrimary]
  exact ⟨rfl, Catalog.running_of_recover recovered, rfl⟩

namespace Course

variable {settings : Settings} {course : Course}

/-- A Primary that sustains a history has logged it. -/
theorem Sustained.chronicles
    (sustained : course.Sustained settings)
    (word : course.history.length ≤ Word.max)
    (fresh : course.primary.Fresh settings) :
    Service.Chronicles settings
      ⟨course.disk, course.primary, course.primary.catalog.appliedTxid⟩
      course.history := by
  obtain ⟨chapters, logged⟩ := sustained.logged
  have whole := logged.subset_ofHistory
  refine ⟨⟨sustained.configured, sustained.directory, sustained.stored.stands,
    ⟨chapters, logged.shelved.archived logged.filed, fun record present => ?_⟩,
    fun record present => ?_, ?_, ?_, ?_, ?_,
    fun txid above opened below => ?_⟩, sustained.appliedTxid, sustained.tree⟩
  · exact Record.of_mem_ofHistory (whole (List.mem_append_left _ present))
  · exact Record.of_mem_ofHistory (whole (List.mem_append_right _ present))
  · rw [sustained.appliedTxid]
    exact word
  · rw [fresh.running, fresh.closed]
    rfl
  · rw [fresh.fetcher]
    exact Nat.le_max_right _ _
  · rw [fresh.fetcher]
    exact ⟨[], Fetcher.caches_new _ _, by simp⟩
  · have complete := logged.shelved.complete
    rw [Catalog.appliedTxid] at opened
    simp only at opened below
    omega

/-- A new process is fresh. -/
theorem fresh_restart
    {after : Course}
    {txid : Nat}
    (restarted : course.restart txid = .ok after) :
    after.primary.Fresh course.primary.settings := by
  unfold restart at restarted
  split at restarted
  · cases restarted
  · rename_i disk primary opened
    obtain rfl := Except.ok.inj restarted
    exact fresh_of_openAt opened

/-- Nothing that happens to a Primary fetches from it or leaves it closed. -/
theorem fresh_step
    (fresh : course.primary.Fresh settings)
    (configured : course.primary.settings = settings)
    {event : Primary.Event}
    {after : Course}
    (stepped : course.step event = .ok after) :
    after.primary.Fresh settings := by
  cases event with
  | mutate operation =>
      obtain rfl := Except.ok.inj stepped
      simp only [mutate_eq]
      rcases Catalog.mutate_cases course.primary.catalog operation with
        same | ⟨tree, made, applied, logged⟩
      · rw [same]
        exact fresh
      · rw [logged]
        exact ⟨fresh.fetcher, fresh.running, fresh.closed⟩
  | roll failures =>
      obtain rfl := Except.ok.inj stepped
      exact ⟨fresh.fetcher, fresh.running, fresh.closed⟩
  | forceSync failures =>
      obtain rfl := Except.ok.inj stepped
      exact ⟨fresh.fetcher, fresh.running, fresh.closed⟩
  | checkpoint count failures =>
      simp only [Course.step] at stepped
      split at stepped
      · obtain rfl := Except.ok.inj stepped
        unfold Course.upload
        simp only
        split
        · exact fresh
        · rename_i sent
          rcases course.primary.updateCheckpoint_cases
              (Remote.uploadImage
                (Image.encode count (Tree.ofHistory course.history count))
                (course.disk.failing failures)
                (some course.primary)).disk.mended count with
            ⟨-, state⟩ | ⟨state, -⟩ | ⟨-, -, saved, -, ⟨-, state⟩ | ⟨-, state⟩⟩
          all_goals
            simp only
            rw [state]
            exact ⟨fresh.fetcher, fresh.running, fresh.closed⟩
      · obtain rfl := Except.ok.inj stepped
        exact fresh
  | crash => exact configured ▸ fresh_restart stepped
  | close failures =>
      have restarted := fresh_restart stepped
      obtain ⟨-, state, -⟩ :=
        close_eq course.primary (course.disk.failing failures)
      simp only [state, configured] at restarted
      exact restarted

/-- A fresh process stays so through every run. -/
theorem Sustained.fresh_run
    (sustained : course.Sustained settings)
    (fresh : course.primary.Fresh settings)
    {events : List Primary.Event}
    (word : course.history.length + events.length ≤ Word.max)
    {after : Course}
    (isRun : course.run events = .ok after) :
    after.primary.Fresh settings := by
  induction events generalizing course with
  | nil =>
      obtain rfl := Except.ok.inj isRun
      exact fresh
  | cons event events hypothesis =>
      rw [List.length_cons] at word
      obtain ⟨between, stepped, stillSustained, grown⟩ :=
        sustained.step (by omega) event
      rw [Course.run, List.foldlM_cons, stepped] at isRun
      exact hypothesis stillSustained
        (fresh_step fresh sustained.configured stepped) (by omega) isRun

end Course

/-- A Primary that was started on an empty data directory tells its history: one
that mutations, flushes, checkpoints and restarts have left, and that goes on
through whatever happens until the next restart. -/
theorem start_tells
    {disk : Disk}
    {settings : Settings}
    (reliable : disk.Reliable)
    (vacant : disk.Vacant settings.home)
    (events : List Event)
    (word : events.length ≤ Word.max)
    {later : List Service.Event}
    (goesOn : ∀ event ∈ later, event ≠ .restart) :
    ∃ course service more,
      start disk settings events = .ok course ∧
      Service.run
        ⟨course.disk, course.primary, course.primary.catalog.appliedTxid⟩
        later =
        .ok service ∧
      service.Tells (course.history ++ more) := by
  have started := sustained_start reliable vacant
  obtain ⟨course, isRun, sustained, bounded⟩ :=
    started.run events (by simpa using word)
  have fresh := started.fresh_run ⟨rfl, rfl, rfl⟩ (by simpa using word) isRun
  rw [List.length_nil, Nat.zero_add] at bounded
  obtain ⟨service, more, served, chronicles⟩ :=
    (sustained.chronicles (Nat.le_trans bounded word) fresh).run goesOn
  refine ⟨course, service, more, ?_, served, chronicles.tells⟩
  rw [start, openAt_of_vacant reliable vacant]
  exact isRun

end Primary
end NameService
