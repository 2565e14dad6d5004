import Mathlib.Algebra.GroupWithZero.Nat
import NameService.Proofs.Primary.Feeding
import NameService.Proofs.Primary.Telling

/-!
# Catching up

A Backup fetches from a Primary until a fetch brings nothing new. As long as the
Primary retains every record that the Backup lacks, each fetch before the last
one brings at least one of them, and in the end the Backup has applied all of
them in order and has the tree of the Primary.
-/

namespace NameService

/-! ## Batches of a history -/

/-- The next record of a history is a slice of it. -/
theorem Record.slice_succ
    {history : List Operation}
    {start : Nat}
    {operation : Operation}
    (next : history[start]? = some operation) :
    slice history start (start + 1) = [⟨start + 1, operation⟩] := by
  obtain ⟨bounded, isNext⟩ := List.getElem?_eq_some_iff.mp next
  rw [slice, Nat.add_sub_cancel_left, List.drop_eq_getElem_cons bounded, isNext]
  rfl

/-- Consecutive records of a history are a slice of it. -/
theorem Record.Numbered.eq_slice
    {history : List Operation}
    {start : Nat}
    {records : List Record}
    (numbered : Numbered (start + 1) records)
    (tell : ∀ record ∈ records, record.Of history) :
    records = slice history start (start + records.length) := by
  induction records generalizing start with
  | nil => simp [slice]
  | cons record records hypothesis =>
      obtain ⟨isFirst, behind⟩ := numbered_cons.mp numbered
      obtain ⟨own, others⟩ := List.forall_mem_cons.mp tell
      have next := own.2
      rw [isFirst, Nat.add_sub_cancel] at next
      have bounded := own.txid_le
      rw [isFirst] at bounded
      rw [List.length_cons,
        ← slice_append_slice history (Nat.le_succ start) (by omega) bounded,
        slice_succ next,
        show start + (records.length + 1) = start + 1 + records.length by omega,
        ← hypothesis behind others, ← isFirst]
      rfl

namespace Catalog

/-- A batch that goes on where a catalog stands is applied and logged as a
whole. -/
theorem applyBatch_of_numbered
    {catalog : Catalog}
    {records : List Record}
    (word : catalog.appliedTxid + records.length ≤ Word.max)
    (numbered : Record.Numbered (catalog.appliedTxid + 1) records) :
    catalog.applyBatch records =
      ({ catalog with
          tree := catalog.tree.absorbAll (records.map Record.operation)
          log := { catalog.log with
            active := catalog.log.active ++ records
            lastTxid := catalog.log.lastTxid + records.length } },
        .ok records.length) := by
  induction records generalizing catalog with
  | nil => simp [applyBatch, Tree.absorbAll]
  | cons record records hypothesis =>
      obtain ⟨isNext, behind⟩ := Record.numbered_cons.mp numbered
      rw [List.length_cons] at word
      have applied := applyRecord_next (by omega) isNext
      have reached : (catalog.applyRecord record).1.appliedTxid = record.txid :=
        congrArg (appliedTxid ·.1) applied
      have goesOn :
          Record.Numbered ((catalog.applyRecord record).1.appliedTxid + 1)
            records := by
        rw [reached, isNext]
        exact behind
      have further : (catalog.applyRecord record).1.appliedTxid +
          records.length ≤ Word.max := by
        omega
      rw [applied] at goesOn further
      rw [applyBatch, applied]
      simp only
      rw [hypothesis further goesOn]
      rw [appliedTxid] at isNext
      simp [Tree.absorbAll, isNext, Except.map]
      omega

/-- A catalog to which the records of a history up to a transaction id were
applied. -/
def broughtTo (catalog : Catalog) (history : List Operation) (stop : Nat) :
    Catalog :=
  { catalog with
    tree := Tree.ofHistory history stop
    log := { catalog.log with
      active :=
        catalog.log.active ++ Record.slice history catalog.appliedTxid stop
      lastTxid := stop } }

variable {catalog : Catalog} {history : List Operation} {stop : Nat}

theorem mirrors_broughtTo
    (catalog : Catalog)
    (bounded : stop ≤ history.length) :
    (catalog.broughtTo history stop).Mirrors history :=
  ⟨bounded, rfl⟩

/-- A mirror is brought on by a slice of the history that goes on where it
stands. -/
theorem Mirrors.applyBatch_slice
    (mirrors : catalog.Mirrors history)
    (reached : catalog.appliedTxid ≤ stop)
    (bounded : stop ≤ history.length)
    (word : stop ≤ Word.max) :
    catalog.applyBatch (Record.slice history catalog.appliedTxid stop) =
      (catalog.broughtTo history stop, .ok (stop - catalog.appliedTxid)) := by
  have last : catalog.log.lastTxid + (stop - catalog.log.lastTxid) = stop := by
    rw [appliedTxid] at reached
    omega
  have operations : Tree.ofHistory history stop =
      catalog.tree.absorbAll ((history.drop catalog.appliedTxid).take
        (stop - catalog.appliedTxid)) := by
    rw [mirrors.tree, Tree.ofHistory, Tree.ofHistory, ← Tree.absorbAll_append,
      ← List.take_add, Nat.add_sub_cancel' reached]
  have length := Record.length_slice bounded catalog.appliedTxid
  rw [applyBatch_of_numbered (by omega)
      (Record.numbered_slice history catalog.appliedTxid stop),
    Record.map_operation_slice, Record.length_slice bounded, broughtTo,
    operations, appliedTxid, last]

/-- What is brought on twice is brought to where it is brought last. -/
theorem broughtTo_broughtTo
    (catalog : Catalog)
    {middle : Nat}
    (first : catalog.appliedTxid ≤ middle)
    (second : middle ≤ stop)
    (bounded : middle ≤ history.length) :
    (catalog.broughtTo history middle).broughtTo history stop =
      catalog.broughtTo history stop := by
  have slices := Record.slice_append_slice history first second bounded
  simp only [broughtTo, appliedTxid] at slices ⊢
  rw [List.append_assoc, slices]

end Catalog

/-- A log retains the record of a transaction id: in a segment that it lists or
in a buffer. -/
def Log.Retains (log : Log) (txid : Nat) : Prop :=
  (∃ span ∈ log.spans, span.covers txid = true) ∨
    ∃ record ∈ log.buffered, record.txid = txid

namespace Primary

/-- A fetch changes nothing of a Primary but its fetcher. -/
theorem fetchEdits_fst (primary : Primary) (disk : Disk) (after : Nat) :
    ∃ fetcher,
      (primary.fetchEdits disk after).1 =
        { primary with fetcher := fetcher } := by
  unfold fetchEdits
  split
  · exact ⟨_, rfl⟩
  · exact ⟨primary.fetcher, rfl⟩

namespace Service

variable {settings : Settings} {accepts : Record → Prop} {service : Service}
  {history : List Operation}

/-! ## Fetches of a history -/

/-- Nothing that the log retains is given up. -/
theorem Sound.not_givenUp
    (sound : service.Sound settings accepts)
    {txid : Nat}
    (retained : service.primary.catalog.log.Retains txid) :
    ¬ service.GivenUp txid := by
  intro givenUp
  rcases retained with ⟨span, present, covers⟩ | ⟨record, inBuffers, rfl⟩
  · rw [givenUp.unlisted span present] at covers
    cases covers
  · obtain ⟨chapters, archived, -⟩ := sound.archived
    have bounds := archived.shelved.numbered.bounds inBuffers
    have flushed := givenUp.flushed
    simp only [Log.flushedTxid_relisted] at bounds
    omega

/-- A running Primary that tells a history answers a fetch with a slice of it,
which is empty only at the end of the history or if the next record is not
retained. -/
theorem Sound.fetch_slice
    (sound : service.Sound settings accepts)
    (running : service.primary.catalog.running = true)
    (tells : service.Tells history)
    {after : Nat}
    (within : after ≤ history.length)
    (retained : after < history.length →
      service.primary.catalog.log.Retains (after + 1)) :
    ∃ stop, after ≤ stop ∧ stop ≤ history.length ∧
      (after < history.length → after < stop) ∧
      (service.primary.fetchEdits service.disk after).2 =
        .ok (Record.slice history after stop) := by
  obtain ⟨batch, answer, numbered, atHand, empty⟩ :=
    sound.fetchEdits running after
  have tell : ∀ record ∈ batch, record.Of history := fun record present =>
    tells.records record (atHand record present).2
  refine ⟨after + batch.length, Nat.le_add_right _ _, ?_, fun behind => ?_, ?_⟩
  · by_cases nothing : batch.length = 0
    · omega
    · obtain ⟨final, present, isFinal⟩ :=
        (numbered.exists_iff (after + batch.length)).mpr ⟨by omega, by omega⟩
      exact isFinal ▸ (tell final present).txid_le
  · have applied : after + 1 ≤ service.primary.catalog.appliedTxid := by
      rw [tells.whole]
      exact behind
    rw [sound.atHand_iff (Nat.succ_pos after) applied, not_not] at empty
    have nonempty : batch ≠ [] := fun nothing =>
      sound.not_givenUp (retained behind) (empty.mp nothing)
    have := List.length_pos_iff.mpr nonempty
    omega
  · rw [answer, ← numbered.eq_slice tell]

/-- A fetch leaves the history told. -/
theorem Sound.tells_fetch
    (sound : service.Sound settings accepts)
    (tells : service.Tells history)
    (after : Nat) :
    ({ service with
      primary := (service.primary.fetchEdits service.disk after).1 }).Tells
      history := by
  obtain ⟨known, supplied, atHand⟩ := sound.supplied
  obtain ⟨still, -⟩ := supplied.fetch after
  unfold Primary.fetchEdits
  split
  · refine ⟨tells.whole, tells.tree, fun record isAtHand => ?_⟩
    obtain ⟨chapters, shelved, whole⟩ := still.shelved
    refine tells.records record (atHand record ?_).2.2
    rcases isAtHand.cases shelved whole still.words still.caches with
      inBuffers | ⟨-, -, isKnown, -⟩
    · exact whole (List.mem_append_right _ inBuffers)
    · exact isKnown
  · exact tells

end Service
end Primary

/-- A follower that has another catalog. -/
def Follower.withCatalog (follower : Follower) (catalog : Catalog) : Follower :=
  { follower with backup := { follower.backup with catalog := some catalog } }

namespace Cluster

/-! ## Fetching until nothing is new -/

/-- A Backup repeats its fetches until one brings nothing new. Listed is how
many records each of the others brought. -/
inductive Repeats : Cluster → Follower → List Nat → Cluster → Follower → Prop
  | done {cluster after : Cluster} {follower final : Follower}
      (fetched : cluster.fetchOnce follower = (after, final, .ok 0)) :
      Repeats cluster follower [] after final
  | again {cluster between after : Cluster} {follower next final : Follower}
    {count : Nat} {counts : List Nat}
      (fetched : cluster.fetchOnce follower = (between, next, .ok (count + 1)))
      (rest : Repeats between next counts after final) :
      Repeats cluster follower ((count + 1) :: counts) after final

/-- Repeated fetches are what a Backup does by itself, if it fetches often
enough. -/
theorem Repeats.fetchAll
    {cluster after : Cluster}
    {follower final : Follower}
    {counts : List Nat}
    (repeats : Repeats cluster follower counts after final)
    {limit : Nat}
    (enough : counts.length < limit) :
    cluster.fetchAll follower limit = (after, final) := by
  induction repeats generalizing limit with
  | done fetched =>
      obtain ⟨less, rfl⟩ := Nat.exists_eq_add_one.mpr (Nat.zero_lt_of_lt enough)
      simp only [Cluster.fetchAll, fetched]
  | again fetched rest hypothesis =>
      obtain ⟨less, rfl⟩ := Nat.exists_eq_add_one.mpr (Nat.zero_lt_of_lt enough)
      simp only [Cluster.fetchAll, fetched]
      exact hypothesis (by simpa using enough)

/-- A fetch behind which there is more brings more than none. -/
theorem Repeats.length_le_sum
    {cluster after : Cluster}
    {follower final : Follower}
    {counts : List Nat}
    (repeats : Repeats cluster follower counts after final) :
    counts.length ≤ counts.sum := by
  induction repeats with
  | done => exact Nat.le_refl _
  | again fetched rest hypothesis =>
      rw [List.length_cons, List.sum_cons]
      omega

/-! ## Catching up -/

/-- A Primary and a follower that knows its address. -/
def ofService (service : Primary.Service) (follower : Follower) : Cluster :=
  ⟨service.disk, some service.primary, follower.primaryStart, true⟩

variable {settings : Settings} {accepts : Record → Prop}
  {service : Primary.Service} {history : List Operation} {catalog : Catalog}

/-- A mirror that fetches from a Primary which retains what it lacks is brought
on. -/
theorem fetchOnce_of_mirrors
    (follower : Follower)
    (sound : service.Sound settings accepts)
    (running : service.primary.catalog.running = true)
    (tells : service.Tells history)
    (mirrors : catalog.Mirrors history)
    (retained : catalog.appliedTxid < history.length →
      service.primary.catalog.log.Retains (catalog.appliedTxid + 1)) :
    ∃ stop, catalog.appliedTxid ≤ stop ∧ stop ≤ history.length ∧
      (catalog.appliedTxid < history.length → catalog.appliedTxid < stop) ∧
      (ofService service follower).fetchOnce (follower.withCatalog catalog) =
        (ofService
            { service with
              primary :=
                (service.primary.fetchEdits service.disk
                  catalog.appliedTxid).1 }
            follower,
          follower.withCatalog (catalog.broughtTo history stop),
          .ok (stop - catalog.appliedTxid)) := by
  obtain ⟨stop, reached, bounded, further, answer⟩ :=
    sound.fetch_slice running tells mirrors.bounded retained
  have opened : service.primary.closed = false := by
    rw [sound.stopped, running]
    rfl
  have word : stop ≤ Word.max := Nat.le_trans bounded (tells.whole ▸ sound.word)
  refine ⟨stop, reached, bounded, further, ?_⟩
  have arrives : (ofService service follower).reaches follower.primaryStart =
      true := by
    simp [reaches, ofService, opened]
  have served : Remote.ask service.disk (some service.primary)
      (Remote.fetchEdits catalog.appliedTxid) =
      ⟨service.disk,
        some (service.primary.fetchEdits service.disk catalog.appliedTxid).1,
        .ok (Record.slice history catalog.appliedTxid stop)⟩ := by
    simp only [Remote.ask, Remote.fetchEdits, answer, Except.mapError]
  have asked : (ofService service follower).ask follower.primaryStart
      (Remote.fetchEdits catalog.appliedTxid) =
      (ofService
          { service with
            primary :=
              (service.primary.fetchEdits service.disk
                catalog.appliedTxid).1 }
          follower,
        .ok (Record.slice history catalog.appliedTxid stop)) := by
    rw [ask, call, if_pos arrives]
    simp only [ofService, served]
  have tails : (follower.withCatalog catalog).backup.isTailing = true := rfl
  have applied : (follower.withCatalog catalog).backup.appliedTxid =
      catalog.appliedTxid := rfl
  have start : (follower.withCatalog catalog).primaryStart =
      follower.primaryStart := rfl
  rw [fetchOnce, if_pos tails, applied, start, asked]
  simp only [Follower.withCatalog, Backup.absorb,
    mirrors.applyBatch_slice reached bounded word]

/-- A mirror catches up with a Primary that retains what it lacks. -/
theorem repeats_of_mirrors
    (follower : Follower)
    (sound : service.Sound settings accepts)
    (running : service.primary.catalog.running = true)
    (tells : service.Tells history)
    (mirrors : catalog.Mirrors history)
    (retained : ∀ txid, catalog.appliedTxid < txid → txid ≤ history.length →
      service.primary.catalog.log.Retains txid) :
    ∃ counts fetcher,
      Repeats (ofService service follower) (follower.withCatalog catalog) counts
        (ofService { service with
          primary := { service.primary with fetcher := fetcher } } follower)
        (follower.withCatalog (catalog.broughtTo history history.length)) ∧
      counts.sum = history.length - catalog.appliedTxid := by
  -- Every fetch but the last one brings the catalog closer to the end of the
  -- history.
  induction lacking : history.length - catalog.appliedTxid using
    Nat.strong_induction_on generalizing service catalog with
  | _ lacking hypothesis =>
      obtain ⟨stop, reached, bounded, further, fetched⟩ :=
        fetchOnce_of_mirrors follower sound running tells mirrors
          fun behind => retained _ (Nat.lt_succ_self _) behind
      obtain ⟨fetcher, isFetcher⟩ :=
        service.primary.fetchEdits_fst service.disk catalog.appliedTxid
      have stillSound := sound.fetch catalog.appliedTxid
      have stillTells := sound.tells_fetch tells catalog.appliedTxid
      rw [isFetcher] at fetched stillSound stillTells
      by_cases caughtUp : catalog.appliedTxid = history.length
      · obtain rfl : stop = history.length := by omega
        rw [caughtUp, Nat.sub_self] at fetched
        exact ⟨[], fetcher, .done fetched, by simp; omega⟩
      · have behind : catalog.appliedTxid < history.length :=
          Nat.lt_of_le_of_ne mirrors.bounded caughtUp
        have brought := further behind
        obtain ⟨count, isCount⟩ :=
          Nat.exists_eq_add_one.mpr (Nat.sub_pos_of_lt brought)
        obtain ⟨counts, last, repeats, sum⟩ :=
          hypothesis (history.length - stop) (by omega) stillSound running
            stillTells (catalog.mirrors_broughtTo bounded)
          (fun txid above => retained txid (Nat.lt_trans brought above)) rfl
        rw [catalog.broughtTo_broughtTo reached bounded bounded] at repeats
        rw [isCount] at fetched
        refine ⟨(count + 1) :: counts, last, .again fetched repeats, ?_⟩
        rw [List.sum_cons, sum]
        omega

/-- A catalog has caught up with a Primary that tells a history: it has the
transaction id and the tree of the Primary, and every record that it lacked was
logged once and in order. -/
structure CaughtUp
    (service : Primary.Service)
    (history : List Operation)
    (before after : Catalog) : Prop where
  txid : after.appliedTxid = service.primary.catalog.appliedTxid
  tree : after.tree = service.primary.catalog.tree
  records : after.log.buffered =
    before.log.buffered ++
      Record.slice history before.appliedTxid history.length

/-- Whatever happened to a Primary that was started on an empty data directory,
a Backup that has the first records of its history catches up with it, as long
as the Primary runs and retains the other ones: fetching until nothing is new
takes no more fetches that bring something than records are missing. -/
theorem serve_catches_up
    {disk : Disk}
    {settings : Settings}
    (reliable : disk.Reliable)
    (vacant : disk.Vacant settings.home)
    {events : List Primary.Service.Event}
    {service : Primary.Service}
    (served : Primary.serve disk settings events = .ok service)
    (running : service.primary.catalog.running = true)
    {history : List Operation}
    (tells : service.Tells history)
    {follower : Follower}
    {catalog : Catalog}
    (recovered : follower.backup.catalog = some catalog)
    (mirrors : catalog.Mirrors history)
    (retained : ∀ txid, catalog.appliedTxid < txid →
      txid ≤ service.primary.catalog.appliedTxid →
      service.primary.catalog.log.Retains txid) :
    ∃ counts cluster caughtUp after,
      Repeats (ofService service follower) follower counts cluster caughtUp ∧
      counts.length ≤
        service.primary.catalog.appliedTxid - catalog.appliedTxid ∧
      (∀ limit,
        service.primary.catalog.appliedTxid - catalog.appliedTxid < limit →
        (ofService service follower).fetchAll follower limit =
          (cluster, caughtUp)) ∧
      caughtUp.backup.catalog = some after ∧
      CaughtUp service history catalog after := by
  have same : follower.withCatalog catalog = follower := by
    rw [Follower.withCatalog, ← recovered]
  obtain ⟨counts, fetcher, repeats, sum⟩ :=
    repeats_of_mirrors follower (Primary.sound_of_serve reliable vacant served)
      running tells mirrors (tells.whole ▸ retained)
  rw [same] at repeats
  have fewer : counts.length ≤
      service.primary.catalog.appliedTxid - catalog.appliedTxid := by
    rw [tells.whole, ← sum]
    exact repeats.length_le_sum
  refine ⟨counts, _, _, _, repeats, fewer, fun limit enough => ?_, rfl,
    tells.whole.symm, tells.tree.symm, ?_⟩
  · exact repeats.fetchAll (Nat.lt_of_le_of_lt fewer enough)
  · simp only [Log.buffered, Catalog.broughtTo, List.append_assoc]

/-- Two records in a segment, one that is sealed and an active one, fetched one
by one by a Backup that has nothing. -/
theorem serve_catches_up_one_by_one :
    ∃ service history counts cluster caughtUp after,
      Primary.serve Disk.empty { Settings.ofDirectory "." with batchSize := 1 }
        [.mutate (.makeDirectory "/a"), .mutate (.makeDirectory "/b"),
          .write .roll fun _ => none, .mutate (.createFile "/a/c"),
          .write .rotate fun _ => none, .fetch 2,
          .mutate (.makeDirectory "/d")] = .ok service ∧
      service.primary.catalog.running = true ∧
      service.Tells history ∧
      service.primary.catalog.appliedTxid = 4 ∧
      Repeats (ofService service ⟨.fresh (Settings.ofDirectory "backup"), 0⟩)
        ⟨.fresh (Settings.ofDirectory "backup"), 0⟩ counts cluster caughtUp ∧
      counts.length ≤ 4 ∧
      caughtUp.backup.catalog = some after ∧
      CaughtUp service history
        (.new (.ofSpans (Settings.ofDirectory "backup").editsLocation
          (Settings.ofDirectory "backup").segmentSize [])) after := by
  have reliable : Disk.empty.Reliable := fun _ => rfl
  have vacant : Disk.empty.Vacant
      ({ Settings.ofDirectory "." with batchSize := 1 } : Settings).home :=
        Disk.vacant_empty
  have outcome : (Primary.serve Disk.empty
      { Settings.ofDirectory "." with batchSize := 1 }
      [.mutate (.makeDirectory "/a"), .mutate (.makeDirectory "/b"),
        .write .roll fun _ => none, .mutate (.createFile "/a/c"),
        .write .rotate fun _ => none, .fetch 2,
        .mutate (.makeDirectory "/d")]).toOption.map (fun service =>
      (service.primary.catalog.running, service.primary.catalog.appliedTxid,
        service.primary.catalog.log.spans,
        service.primary.catalog.log.buffered.map Record.txid)) =
      some (true, 4, [⟨1, 2⟩], [3, 4]) := by decide +kernel
  cases isRun : Primary.serve Disk.empty _ _ with
  | error cause =>
      rw [isRun] at outcome
      cases outcome
  | ok service =>
      simp only [isRun, Except.toOption, Option.map_some, Option.some.injEq,
        Prod.mk.injEq] at outcome
      obtain ⟨running, applied, spans, buffered⟩ := outcome
      obtain ⟨history, tells⟩ :=
        Primary.serve_tells reliable vacant isRun (by simp)
      have retained : ∀ txid, 0 < txid →
          txid ≤ service.primary.catalog.appliedTxid →
          service.primary.catalog.log.Retains txid := by
        intro txid above below
        by_cases inSegment : txid ≤ 2
        · exact .inl
            ⟨⟨1, 2⟩, spans ▸ List.mem_cons_self, by simp [Span.covers]; omega⟩
        · have present : txid ∈ [3, 4] := by
            simp
            omega
          rw [← buffered] at present
          exact .inr (List.mem_map.mp present)
      have recovered :
          (⟨.fresh (Settings.ofDirectory "backup"), 0⟩ :
              Follower).backup.catalog =
          some (.new (.ofSpans (Settings.ofDirectory "backup").editsLocation
            (Settings.ofDirectory "backup").segmentSize [])) := rfl
      obtain ⟨counts, cluster, caughtUp, after, repeats, fewer, -, isCaughtUp,
        done⟩ :=
        serve_catches_up reliable vacant isRun running tells recovered
          (Catalog.mirrors_new _ _ _) retained
      exact ⟨service, history, counts, cluster, caughtUp, after, rfl, running,
        tells, applied, repeats, applied ▸ fewer, isCaughtUp, done⟩

end Cluster
end NameService
