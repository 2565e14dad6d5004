import NameService.Cluster
import NameService.Proofs.Catalog.Delivery
import NameService.Proofs.Log.Fetching
import NameService.Proofs.Primary.Course

/-!
# Following a Primary that crashes

Backups fetch from a Primary that takes mutations, rolls its log, crashes and is
started again. Records are served before they are flushed, so a crash may lose
records that a Backup has applied already, and their transaction ids are given
out again. A Backup to which this never happened has the tree of the Primary
whenever it has its transaction id.
-/

namespace NameService

/-! ## Records of a history -/

namespace Record

variable {history : List Operation}

/-- The records of a whole history. -/
def ofHistory (history : List Operation) : List Record :=
  slice history 0 history.length

/-- The records of a history tell its mutations. -/
theorem of_mem_ofHistory
    {record : Record}
    (present : record ∈ ofHistory history) :
    record.Of history := by
  have tells := (numbered_slice history 0 history.length).of_mem present
  rwa [map_operation_slice, List.drop_zero, Nat.sub_zero,
    List.take_length] at tells

theorem slice_subset_ofHistory
    {start stop : Nat}
    (ordered : start ≤ stop)
    (bounded : stop ≤ history.length) :
    slice history start stop ⊆ ofHistory history := by
  have front :=
    slice_append_slice history (Nat.zero_le start) ordered (by omega)
  have whole := slice_append_slice history (Nat.zero_le stop) bounded bounded
  rw [ofHistory, ← whole, ← front]
  exact List.Subset.trans (List.subset_append_right _ _)
    (List.subset_append_left _ _)

/-- A history that goes on keeps its records. -/
theorem ofHistory_subset_append (history more : List Operation) :
    ofHistory history ⊆ ofHistory (history ++ more) := by
  rw [ofHistory, ← slice_append history more 0 (Nat.le_refl _)]
  exact slice_subset_ofHistory (Nat.zero_le _) (by simp)

end Record

namespace Primary

variable {settings : Settings} {disk : Disk} {history : List Operation}
  {checkpointTxid : Nat} {log : Log} {chapters : List Log.Chapter}

/-- What a log holds are records of its history. -/
theorem Logged.subset_ofHistory
    (logged : Logged log disk history checkpointTxid chapters) :
    chapters.flatMap Log.Chapter.records ++ log.buffered ⊆
      Record.ofHistory history := by
  have complete := logged.shelved.complete
  have whole := logged.whole
  refine List.append_subset.mpr ⟨fun record present => ?_, ?_⟩
  · obtain ⟨chapter, isChapter, inChapter⟩ := List.mem_flatMap.mp present
    have limited :=
      logged.shelved.ascending.limited chapter.span
        (List.mem_map_of_mem isChapter)
    have ordered :=
      logged.shelved.ascending.ordered chapter.span
        (List.mem_map_of_mem isChapter)
    rw [logged.told chapter isChapter] at inChapter
    exact Record.slice_subset_ofHistory (by omega) (by omega) inChapter
  · rw [logged.buffered]
    exact Record.slice_subset_ofHistory (by omega) (Nat.le_refl _)

/-- A Primary is started with an empty cache. -/
theorem fetcher_of_openAt
    {after : Disk}
    {primary : Primary}
    (opened : openAt disk settings = (after, .ok primary)) :
    primary.fetcher = .new settings.batchSize := by
  obtain ⟨_, _, catalog, -, -, -, -, isPrimary⟩ := openAt_eq_ok opened
  rw [isPrimary]

namespace Course

variable {course : Course}

/-- A new process has an empty cache. -/
theorem fetcher_of_restart
    {after : Course}
    {txid : Nat}
    (restarted : course.restart txid = .ok after) :
    after.primary.fetcher = .new course.primary.settings.batchSize := by
  unfold restart at restarted
  split at restarted
  · cases restarted
  · rename_i disk primary opened
    obtain rfl := Except.ok.inj restarted
    exact fetcher_of_openAt opened

/-- What a Primary serves are records of its history. -/
theorem Sustained.fetchEdits
    (sustained : course.Sustained settings)
    (word : course.history.length ≤ Word.max)
    (caches : course.primary.fetcher.Caches (Record.ofHistory course.history))
    (room : 0 < course.primary.fetcher.batchSize)
    (after : Nat) :
    ∃ fetcher records,
      course.primary.fetchEdits course.disk after =
        ({ course.primary with fetcher := fetcher }, .ok records) ∧
      fetcher.Caches (Record.ofHistory course.history) ∧
      0 < fetcher.batchSize ∧
      records ⊆ Record.ofHistory course.history := by
  obtain ⟨chapters, logged⟩ := sustained.logged
  have words : ∀ record ∈ Record.ofHistory course.history,
      record.txid ≤ Word.max :=
    fun record present =>
      Nat.le_trans (Record.of_mem_ofHistory present).txid_le word
  unfold Primary.fetchEdits
  split
  · obtain ⟨batch, answer, answers, stillCaches, sameSize⟩ :=
      Fetcher.answered_fetch logged.shelved logged.subset_ofHistory words caches
        room after
    refine ⟨_, batch, ?_, stillCaches, sameSize ▸ room, answers.known⟩
    simp only [answer]
    rfl
  · exact ⟨course.primary.fetcher, [], rfl, caches, room, List.nil_subset _⟩

end Course
end Primary

namespace Catalog

variable {catalog : Catalog} {history : List Operation}

/-- A mirror of a history is one of what the history becomes. -/
theorem Mirrors.append
    (mirrors : catalog.Mirrors history)
    (more : List Operation) :
    catalog.Mirrors (history ++ more) := by
  refine ⟨Nat.le_trans mirrors.bounded (by simp), ?_⟩
  rw [Tree.ofHistory_append history more mirrors.bounded]
  exact mirrors.tree

/-- A mirror stays one when the history loses only what the mirror does not
have. -/
theorem Mirrors.take
    (mirrors : catalog.Mirrors history)
    {count : Nat}
    (within : catalog.appliedTxid ≤ count) :
    catalog.Mirrors (history.take count) := by
  refine ⟨?_, ?_⟩
  · rw [List.length_take]
    exact Nat.le_min.mpr ⟨within, mirrors.bounded⟩
  · rw [Tree.ofHistory_take history within]
    exact mirrors.tree

end Catalog

namespace Backup

/-- A Backup that has recovered from an empty data directory. -/
def fresh (settings : Settings) : Backup :=
  { new settings with
    catalog :=
      some (.new (.ofSpans settings.editsLocation settings.segmentSize [])) }

/-- A Backup recovers from an empty data directory with nothing. -/
theorem recover_of_vacant
    {settings : Settings}
    {disk : Disk}
    (reliable : disk.Reliable)
    (vacant : disk.Vacant settings.home) :
    (new settings).recover disk =
      ⟨Primary.started disk settings, fresh settings, .ok ()⟩ := by
  have noInfo : Checkpoint.Info.load disk settings.checkpointInfoLocation =
      .ok none := by
    rw [Checkpoint.Info.load,
      show disk.has settings.checkpointInfoLocation = false from
      Primary.has_of_vacant vacant (by decide) (by decide)]
    rfl
  unfold recover rebuild
  simp only [new, Disk.makeDirectories_of_stands vacant.stands, noInfo,
    loadImage, Option.map_none, Option.getD_none,
    Primary.recover_of_vacant (reliable _) vacant]
  rfl

end Backup

namespace Cluster

/-! ## Fetches -/

/-- A fetch does nothing, or the Primary serves it and the Backup applies what
it is served. -/
theorem fetchOnce_cases
    (disk : Disk)
    (primary : Primary)
    (starts : Nat)
    (connected : Bool)
    (follower : Follower) :
    let cluster : Cluster := ⟨disk, some primary, starts, connected⟩
    let fetched := primary.fetchEdits disk follower.backup.appliedTxid
    ((cluster.fetchOnce follower).1 = cluster ∧
      (cluster.fetchOnce follower).2.1 = follower) ∨
      (cluster.fetchOnce follower).1 =
        ⟨disk, some fetched.1, starts, connected⟩ ∧
        ∀ records, fetched.2 = .ok records →
          (cluster.fetchOnce follower).2.1.backup =
            (follower.backup.absorb records).1 := by
  intro cluster fetched
  unfold fetchOnce ask call
  by_cases tails : follower.backup.isTailing
  · by_cases arrives : cluster.reaches follower.primaryStart
    · have served : Remote.ask disk (some primary)
          (Remote.fetchEdits follower.backup.appliedTxid) =
          ⟨disk, some fetched.1,
            fetched.2.mapError ServiceError.seenRemotely⟩ := rfl
      simp only [tails, arrives, if_true, cluster, served]
      right
      cases answer : fetched.2 with
      | error cause => exact ⟨rfl, nofun⟩
      | ok records =>
          refine ⟨rfl, fun same isAnswer => ?_⟩
          obtain rfl := Except.ok.inj isAnswer
          rfl
    · simp only [tails, arrives, if_true]
      exact .inl ⟨rfl, rfl⟩
  · simp only [tails]
    exact .inl ⟨rfl, rfl⟩

/-- A Primary and the Backups that follow it. -/
structure Following where
  course : Primary.Course
  backups : Nat → Backup
  /-- Whether a crash has lost records that a Backup had applied. -/
  outrun : Nat → Bool

namespace Following

/-- What happens between a Primary and the Backups that follow it. -/
inductive Event
  /-- A client asks the Primary for a mutation. -/
  | mutate (operation : Operation)
  /-- The Primary rolls its log. -/
  | roll (failures : Nat → Option Disk.Failure)
  /-- A Backup fetches from the Primary and applies what it is served. -/
  | fetch (who : Nat)
  /-- The Primary is dropped without a flush and started again on its data
  directory. -/
  | crash

/-- What a Primary and its Backups are after one of them has fetched. -/
def fetch (following : Following) (who : Nat) : Following :=
  let cluster : Cluster :=
    ⟨following.course.disk, some following.course.primary, 0, true⟩
  let (cluster, follower, _) := cluster.fetchOnce ⟨following.backups who, 0⟩
  { following with
    course := { following.course with
      disk := cluster.disk
      primary := cluster.primary.getD following.course.primary }
    backups :=
      fun other => if other = who then follower.backup else
        following.backups other }

/-- What a Primary and its Backups are after one more event. A Backup is outrun
if it is ahead of what outlives the Primary. -/
def step (following : Following) : Event → Except ServiceError Following
  | .mutate operation =>
      (following.course.step (.mutate operation)).map fun course =>
        { following with course := course }
  | .roll failures =>
      (following.course.step (.roll failures)).map fun course =>
        { following with course := course }
  | .fetch who => .ok (following.fetch who)
  | .crash =>
      (following.course.step .crash).map fun course =>
        { following with
          course := course
          outrun := fun who => following.outrun who ||
            decide (following.course.primary.durableTxid <
              (following.backups who).appliedTxid) }

/-- What a Primary and its Backups are after a run of events. -/
def run (following : Following) (events : List Event) :
    Except ServiceError Following :=
  events.foldlM step following

/-- Start a Primary, with Backups of these settings that have nothing yet, and
let a run of events happen to them. -/
def start
    (disk : Disk)
    (settings : Settings)
    (followers : Nat → Settings)
    (events : List Event) : Except ServiceError Following :=
  match Primary.openAt disk settings with
  | (_, .error cause) => .error cause
  | (disk, .ok primary) =>
      run ⟨⟨disk, primary, []⟩, fun who => .fresh (followers who),
        fun _ => false⟩ events

/-! ## The invariant -/

/-- The Primary sustains its history and caches only records of it, and a Backup
that was never outrun mirrors the history. -/
structure Sound (settings : Settings) (following : Following) : Prop where
  sustained : following.course.Sustained settings
  caches :
    following.course.primary.fetcher.Caches
      (Record.ofHistory following.course.history)
  room : 0 < following.course.primary.fetcher.batchSize
  mirrors : ∀ who, following.outrun who = false →
    ∃ catalog, (following.backups who).catalog = some catalog ∧
      catalog.Mirrors following.course.history

variable {settings : Settings} {following : Following}

/-- A history that goes on is followed on. -/
theorem Sound.advance
    (sound : following.Sound settings)
    {course : Primary.Course}
    (sustained : course.Sustained settings)
    (sameFetcher : course.primary.fetcher = following.course.primary.fetcher)
    (grown : ∃ more, course.history = following.course.history ++ more) :
    ({ following with course := course }).Sound settings := by
  obtain ⟨more, history⟩ := grown
  refine ⟨sustained, ?_, sameFetcher ▸ sound.room, fun who kept => ?_⟩
  · simp only [sameFetcher, history]
    exact sound.caches.mono (Record.ofHistory_subset_append _ more)
  · obtain ⟨catalog, isCatalog, mirrors⟩ := sound.mirrors who kept
    refine ⟨catalog, isCatalog, ?_⟩
    simp only [history]
    exact mirrors.append more

theorem Sound.mutate
    (sound : following.Sound settings)
    (room : following.course.history.length < Word.max)
    (operation : Operation) :
    ∃ after, following.step (.mutate operation) = .ok after ∧
      after.Sound settings ∧
      after.course.history.length ≤ following.course.history.length + 1 := by
  obtain ⟨course, stepped, sustained, bounded⟩ :=
    sound.sustained.mutate room operation
  refine ⟨{ following with course := course }, ?_, ?_, bounded⟩
  · rw [step, stepped]
    rfl
  · obtain rfl := Except.ok.inj stepped
    refine sound.advance sustained ?_ ?_
    · rw [Primary.mutate_eq]
    · simp only
      split
      · exact ⟨[operation], rfl⟩
      · exact ⟨[], (List.append_nil _).symm⟩

theorem Sound.roll
    (sound : following.Sound settings)
    (word : following.course.history.length ≤ Word.max)
    (failures : Nat → Option Disk.Failure) :
    ({ following with
      course := following.course.withLog failures Log.roll }).Sound settings :=
  sound.advance (sound.sustained.roll word failures)
    rfl ⟨[], (List.append_nil _).symm⟩

/-- A Backup that applies records of the history goes on mirroring it. -/
theorem mirrors_absorb
    {history : List Operation}
    {backup : Backup}
    (before : ∃ catalog, backup.catalog = some catalog ∧
      catalog.Mirrors history)
    (word : history.length ≤ Word.max)
    {records : List Record}
    (served : records ⊆ Record.ofHistory history) :
    ∃ catalog, (backup.absorb records).1.catalog = some catalog ∧
      catalog.Mirrors history := by
  obtain ⟨catalog, isCatalog, mirrors⟩ := before
  refine ⟨(catalog.applyBatch records).1, ?_, ?_⟩
  · rw [Backup.absorb, isCatalog]
  · exact mirrors.applyBatch word fun record present =>
      Record.of_mem_ofHistory (served present)

theorem Sound.fetch
    (sound : following.Sound settings)
    (word : following.course.history.length ≤ Word.max)
    (who : Nat) :
    (following.fetch who).Sound settings ∧
      (following.fetch who).course.history = following.course.history := by
  refine ⟨?_, rfl⟩
  obtain ⟨fetcher, records, fetched, caches, room, served⟩ :=
    sound.sustained.fetchEdits word sound.caches sound.room
      (following.backups who).appliedTxid
  have outcome :=
    fetchOnce_cases following.course.disk following.course.primary 0 true
      ⟨following.backups who, 0⟩
  simp only [fetched] at outcome
  have before := sound.sustained
  rcases outcome with ⟨sameCluster, sameFollower⟩ | ⟨changed, absorbed⟩
  · have sameBackups : (fun other =>
        if other = who then following.backups who else
          following.backups other) =
        following.backups := by
      funext other
      split
      · rename_i isWho
        rw [isWho]
      · rfl
    simp only [Following.fetch, sameCluster, sameFollower, Option.getD_some,
      sameBackups]
    exact sound
  · have backup := absorbed records rfl
    simp only [Following.fetch, changed, backup, Option.getD_some]
    refine ⟨⟨before.reliable, before.configured, before.directory, before.tree,
      before.stored, before.logged⟩, caches, room, fun other kept => ?_⟩
    simp only
    split
    · rename_i isWho
      subst isWho
      exact mirrors_absorb (sound.mirrors other kept) word served
    · exact sound.mirrors other kept

/-- A Backup that a crash does not outrun mirrors what the crash leaves. -/
theorem Sound.crash
    (sound : following.Sound settings)
    (word : following.course.history.length ≤ Word.max) :
    ∃ after, following.step .crash = .ok after ∧ after.Sound settings ∧
      after.course.history.length ≤ following.course.history.length := by
  obtain ⟨course, restarted, sustained, history⟩ := sound.sustained.restart word
  have fetcher := Primary.Course.fetcher_of_restart restarted
  have stepped : following.course.step .crash = .ok course := restarted
  rw [step, stepped]
  refine ⟨_, rfl, ⟨sustained, ?_, ?_, fun who kept => ?_⟩, ?_⟩
  · simp only [fetcher]
    exact Fetcher.caches_new _ _
  · simp only [fetcher]
    exact Nat.le_max_right _ _
  · simp only [Bool.or_eq_false_iff, decide_eq_false_iff_not,
      Nat.not_lt] at kept
    obtain ⟨catalog, isCatalog, mirrors⟩ := sound.mirrors who kept.1
    have applied : (following.backups who).appliedTxid =
        catalog.appliedTxid := by
      simp [Backup.appliedTxid, isCatalog]
    refine ⟨catalog, isCatalog, ?_⟩
    simp only [history]
    exact mirrors.take (applied ▸ kept.2)
  · simp only [history, List.length_take]
    exact Nat.min_le_right _ _

/-- Every event goes through and keeps a following sound. -/
theorem Sound.step
    (sound : following.Sound settings)
    (room : following.course.history.length < Word.max)
    (event : Event) :
    ∃ after, following.step event = .ok after ∧ after.Sound settings ∧
      after.course.history.length ≤ following.course.history.length + 1 := by
  have word := Nat.le_of_lt room
  cases event with
  | mutate operation => exact sound.mutate room operation
  | roll failures => exact ⟨_, rfl, sound.roll word failures, Nat.le_succ _⟩
  | fetch who =>
      obtain ⟨after, history⟩ := sound.fetch word who
      exact ⟨_, rfl, after, history ▸ Nat.le_succ _⟩
  | crash =>
      obtain ⟨after, stepped, stillSound, bounded⟩ := sound.crash word
      exact ⟨after, stepped, stillSound, Nat.le_succ_of_le bounded⟩

/-- Every run of events goes through and keeps a following sound. -/
theorem Sound.run
    (sound : following.Sound settings)
    (events : List Event)
    (word : following.course.history.length + events.length ≤ Word.max) :
    ∃ after, following.run events = .ok after ∧ after.Sound settings ∧
      after.course.history.length ≤
        following.course.history.length + events.length :=
  foldlM_of_steps Sound.step sound events word

/-- A Primary on an empty data directory and Backups that have nothing are
sound. -/
theorem sound_start
    {disk : Disk}
    (reliable : disk.Reliable)
    (vacant : disk.Vacant settings.home)
    (followers : Nat → Settings) :
    Sound settings
      ⟨⟨Primary.started disk settings, Primary.recovered settings [] [] 0 0,
        []⟩,
      fun who => .fresh (followers who), fun _ => false⟩ :=
  ⟨Primary.sustained_start reliable vacant, Fetcher.caches_new _ _,
    Nat.le_max_right _ _,
    fun _ _ => ⟨_, rfl, Catalog.mirrors_new _ _ _⟩⟩

/-! ## Agreement -/

/-- A Backup and the Primary have one transaction id, and so they have one
tree. -/
def Agrees (following : Following) (who : Nat) : Prop :=
  (following.backups who).appliedTxid =
    following.course.primary.catalog.appliedTxid →
    ∃ catalog, (following.backups who).catalog = some catalog ∧
      catalog.tree = following.course.primary.catalog.tree ∧
      catalog.tree.digest = following.course.primary.catalog.tree.digest

/-- A mirror agrees with the Primary. -/
theorem Sound.agrees
    (sound : following.Sound settings)
    {who : Nat}
    (kept : following.outrun who = false) :
    following.Agrees who := by
  intro sameTxid
  obtain ⟨catalog, isCatalog, mirrors⟩ := sound.mirrors who kept
  have applied : (following.backups who).appliedTxid = catalog.appliedTxid := by
    simp [Backup.appliedTxid, isCatalog]
  have sameTree : catalog.tree = following.course.primary.catalog.tree := by
    rw [mirrors.tree, sound.sustained.tree, ← sound.sustained.appliedTxid,
      ← sameTxid, applied]
  exact ⟨catalog, isCatalog, sameTree, congrArg Tree.digest sameTree⟩

/-- Whatever happens to a Primary that is started on an empty data directory and
to the Backups that follow it, whichever steps of its rolls fail, it goes
through, and every Backup that no crash has outrun agrees with the Primary, as
long as the number of events is a word. -/
theorem start_agrees
    {disk : Disk}
    {settings : Settings}
    (reliable : disk.Reliable)
    (vacant : disk.Vacant settings.home)
    (followers : Nat → Settings)
    (events : List Event)
    (word : events.length ≤ Word.max) :
    ∃ following, start disk settings followers events = .ok following ∧
      ∀ who, following.outrun who = false → following.Agrees who := by
  obtain ⟨following, isRun, sound, -⟩ :=
    (sound_start reliable vacant followers).run events (by simpa using word)
  refine ⟨following, ?_, fun who => sound.agrees⟩
  rw [start, Primary.openAt_of_vacant reliable vacant]
  exact isRun

/-- One Backup fetches before a roll and another one behind it, and neither is
outrun by the crash. -/
theorem start_agrees_rolled :
    ∃ following,
      start Disk.empty (Settings.ofDirectory ".")
        (fun _ => Settings.ofDirectory "backup")
        [.mutate (.makeDirectory "/a"), .fetch 0, .roll fun _ => none,
          .mutate (.createFile "/a/b"), .fetch 1,
          .roll fun _ => some ⟨.other "", 0⟩, .roll fun _ => none, .crash,
          .fetch 0, .mutate (.makeDirectory "/c"), .fetch 0, .fetch 1] =
        .ok following ∧
      ∀ who, following.outrun who = false → following.Agrees who :=
  start_agrees (fun _ => rfl)
    (show Disk.empty.Vacant (Settings.ofDirectory ".").home from
      Disk.vacant_empty) _ _ (by decide)

/-- A Backup that applied a record which a crash then lost has another tree
under the transaction id that is given out again. -/
theorem start_agrees_outrun :
    ∃ following,
      start Disk.empty (Settings.ofDirectory ".")
        (fun _ => Settings.ofDirectory "backup")
        [.mutate (.makeDirectory "/a"), .fetch 0, .crash,
          .mutate (.makeDirectory "/b")] =
        .ok following ∧ ¬ following.Agrees 0 := by
  have outcome : (start Disk.empty (Settings.ofDirectory ".")
      (fun _ => Settings.ofDirectory "backup")
      [.mutate (.makeDirectory "/a"), .fetch 0, .crash,
        .mutate (.makeDirectory "/b")]).toOption.map
      (fun following =>
        ((following.backups 0).appliedTxid,
          following.course.primary.catalog.appliedTxid,
          (following.backups 0).catalog.map fun catalog =>
            catalog.tree.children.map Tree.name,
          following.course.primary.catalog.tree.children.map Tree.name)) =
      some (1, 1, some ["a"], ["b"]) := by decide +kernel
  generalize start _ _ _ _ = result at outcome ⊢
  cases result with
  | error cause => cases outcome
  | ok following =>
      simp only [Except.toOption, Option.map_some, Option.some.injEq,
        Prod.mk.injEq] at outcome
      obtain ⟨backupTxid, primaryTxid, backupNames, primaryNames⟩ := outcome
      refine ⟨following, rfl, fun agrees => ?_⟩
      obtain ⟨catalog, isCatalog, sameTree, -⟩ :=
        agrees (backupTxid.trans primaryTxid.symm)
      rw [isCatalog, Option.map_some, sameTree, primaryNames] at backupNames
      exact absurd backupNames (by decide)

end Following
end Cluster
end NameService
