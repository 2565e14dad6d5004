import NameService.Backup
import NameService.Digest
import NameService.Proofs.Catalog.Retelling
import NameService.Proofs.Log.Chapters
import NameService.Proofs.Tree.History

/-!
# Delivering records

A catalog that starts empty is delivered batches of the records that another one
has logged: repeated, stale, overlapping, or out of order. It takes a record
only if it is the next one, so at every moment it has the first records of the
history and the tree that the other catalog had at that transaction id.
-/

namespace NameService

namespace Record

variable {records : List Record} {history : List Operation} {record : Record}

/-- A record tells the mutation of a history that has its transaction id. -/
def Of (history : List Operation) (record : Record) : Prop :=
  0 < record.txid ∧ history[record.txid - 1]? = some record.operation

/-- Records that are numbered from one on are found under their transaction
ids. -/
theorem Numbered.getElem?_of_mem
    (numbered : Numbered 1 records)
    (present : record ∈ records) :
    0 < record.txid ∧ records[record.txid - 1]? = some record := by
  obtain ⟨index, bounded, isRecord⟩ := List.mem_iff_getElem.mp present
  have txids := congrArg (·[index]?) numbered
  simp only [List.getElem?_map, List.getElem?_eq_getElem bounded, isRecord,
    Option.map_some, List.getElem?_range' bounded, Option.some.injEq] at txids
  rw [txids, Nat.one_mul, Nat.add_sub_cancel_left,
    List.getElem?_eq_getElem bounded, isRecord]
  exact ⟨by omega, rfl⟩

/-- Records that are numbered from one on tell their own mutations. -/
theorem Numbered.of_mem
    (numbered : Numbered 1 records)
    (present : record ∈ records) :
    record.Of (records.map operation) := by
  obtain ⟨positive, found⟩ := numbered.getElem?_of_mem present
  exact ⟨positive, by rw [List.getElem?_map, found]; rfl⟩

/-- A record of a history is numbered within it. -/
theorem Of.txid_le (tells : record.Of history) :
    record.txid ≤ history.length := by
  have positive := tells.1
  have bounded := (List.getElem?_eq_some_iff.mp tells.2).1
  omega

end Record

namespace Tree

/-- The next mutation of a history is carried out on the tree before it. -/
theorem ofHistory_succ
    {history : List Operation}
    {count : Nat}
    {operation : Operation}
    (next : history[count]? = some operation) :
    ofHistory history (count + 1) =
      (ofHistory history count).absorb operation := by
  rw [ofHistory, ofHistory, List.take_add_one, next, absorbAll_append]
  rfl

/-- Mutations that all succeed are skipped nowhere. -/
theorem absorbAll_of_applyAll
    {tree after : Tree}
    {operations : List Operation}
    (applied : tree.applyAll operations = .ok after) :
    tree.absorbAll operations = after := by
  induction operations generalizing tree with
  | nil => exact Except.ok.inj applied
  | cons operation rest hypothesis =>
      rw [applyAll] at applied
      split at applied
      · rename_i next made outcome
        rw [absorbAll_cons, absorb, outcome]
        exact hypothesis applied
      · cases applied

end Tree

namespace Log

/-- What keeps a log in shape while records are appended to it. -/
inductive Upkeep
  /-- Seal the active buffer. -/
  | rotate
  /-- Write the sealing buffer to a segment. -/
  | flush
  /-- Rotate and flush. -/
  | roll
  /-- Flush everything buffered. -/
  | forceSync
  /-- Delete the segments that end at or below a transaction id. -/
  | purgeThrough (txid : Nat)

/-- What the upkeep leaves of a log and its disk. -/
def keepUp (log : Log) (disk : Disk) : Upkeep → Disk × Log
  | .rotate => (disk, log.rotate.1)
  | .flush => ((log.flush disk).disk, (log.flush disk).state)
  | .roll => ((log.roll disk).disk, (log.roll disk).state)
  | .forceSync => ((log.forceSync disk).disk, (log.forceSync disk).state)
  | .purgeThrough txid =>
      ((log.purgeThrough disk txid).disk, (log.purgeThrough disk txid).state)

/-- The upkeep of a log neither appends to it nor moves it. -/
theorem keepUp_same (log : Log) (disk : Disk) (upkeep : Upkeep) :
    (log.keepUp disk upkeep).2.lastTxid = log.lastTxid ∧
      (log.keepUp disk upkeep).2.directory = log.directory := by
  cases upkeep with
  | rotate => exact rotate_same log
  | flush => exact flush_same log disk
  | roll =>
      obtain ⟨rotatedTxid, rotatedDirectory⟩ := rotate_same log
      obtain ⟨flushedTxid, flushedDirectory⟩ := flush_same log.rotate.1 disk
      exact ⟨flushedTxid.trans rotatedTxid,
        flushedDirectory.trans rotatedDirectory⟩
  | forceSync =>
      have flushed := flush_same log disk
      have rotated := rotate_same (log.flush disk).state
      rw [flushed.1, flushed.2] at rotated
      simp only [keepUp, forceSync]
      split
      · exact flushed
      · split <;> rename_i outcome <;> rw [outcome] at rotated
        · exact rotated
        · rw [← rotated.1, ← rotated.2]
          exact flush_same _ _
  | purgeThrough txid => exact ⟨rfl, rfl⟩

end Log

namespace Catalog

variable {catalog : Catalog} {record : Record} {history : List Operation}

/-! ## Applying records -/

/-- A record that is applied already is skipped. -/
theorem applyRecord_old (old : record.txid ≤ catalog.appliedTxid) :
    catalog.applyRecord record = (catalog, .ok false) := by
  rw [applyRecord, if_pos old]

/-- The next record is logged, whether it applies to the tree or not. -/
theorem applyRecord_next
    (word : record.txid ≤ Word.max)
    (next : record.txid = catalog.appliedTxid + 1) :
    catalog.applyRecord record =
      ({ catalog with
          tree := catalog.tree.absorb record.operation
          log := { catalog.log with
            active := catalog.log.active ++ [record], lastTxid := record.txid }
            }, .ok true) := by
  have isNew : ¬ record.txid ≤ catalog.appliedTxid := by omega
  have room : catalog.appliedTxid < Word.max := by omega
  have follows : record.txid = Word.next catalog.log.lastTxid :=
    next.trans (Word.next_of_lt room).symm
  rw [applyRecord, if_neg isNew, if_pos next, Log.appendRecord, if_pos follows]

/-- A record that leaves a gap is refused. -/
theorem applyRecord_ahead (ahead : catalog.appliedTxid + 1 < record.txid) :
    catalog.applyRecord record =
      (catalog,
        .error (.log (.outOfOrder (catalog.appliedTxid + 1) record.txid))) := by
  have isNew : ¬ record.txid ≤ catalog.appliedTxid := by omega
  have leaves : record.txid ≠ catalog.appliedTxid + 1 := by omega
  rw [applyRecord, if_neg isNew, if_neg leaves]

/-- A record changes nothing, or it is the next one. -/
theorem applyRecord_cases (catalog : Catalog) (record : Record) :
    (catalog.applyRecord record).1 = catalog ∨
      record.txid = catalog.appliedTxid + 1 := by
  rcases Nat.lt_trichotomy record.txid (catalog.appliedTxid + 1) with
    old | next | ahead
  · exact .inl (by rw [applyRecord_old (Nat.le_of_lt_succ old)])
  · exact .inr next
  · exact .inl (by rw [applyRecord_ahead ahead])

/-- What a record keeps is kept by a batch of such records. -/
theorem applyBatch_induction
    (keeps : Catalog → Prop)
    {batch : List Record}
    (step : ∀ catalog, ∀ record ∈ batch, keeps catalog →
      keeps (catalog.applyRecord record).1)
    (initial : keeps catalog) :
    keeps (catalog.applyBatch batch).1 := by
  induction batch generalizing catalog with
  | nil => exact initial
  | cons record rest hypothesis =>
      have first := step catalog record List.mem_cons_self initial
      rw [applyBatch]
      split
      · rename_i after cause outcome
        rwa [outcome] at first
      · rename_i after isNew outcome
        rw [outcome] at first
        exact hypothesis
          (fun catalog record present => step catalog record (.tail _ present))
          first

/-- A record does not take the transaction id applied back, whether it is logged
or not. -/
theorem appliedTxid_le_applyRecord (catalog : Catalog) (record : Record) :
    catalog.appliedTxid ≤ (catalog.applyRecord record).1.appliedTxid := by
  rcases catalog.applyRecord_cases record with same | next
  · rw [same]
  · have isNew : ¬ record.txid ≤ catalog.appliedTxid := by omega
    rw [applyRecord, if_neg isNew, if_pos next, Log.appendRecord]
    split
    · rename_i logged
      split at logged
      · obtain ⟨rfl, -⟩ := Prod.mk.inj logged
        exact Nat.le_of_not_le isNew
      · cases logged
    · rename_i refused
      split at refused
      · cases refused
      · obtain ⟨rfl, -⟩ := Prod.mk.inj refused
        exact Nat.le_refl _

/-- The transaction id applied never goes down. -/
theorem appliedTxid_le_applyBatch (catalog : Catalog) (batch : List Record) :
    catalog.appliedTxid ≤ (catalog.applyBatch batch).1.appliedTxid :=
  applyBatch_induction (fun after => catalog.appliedTxid ≤ after.appliedTxid)
    (fun after record _ reached =>
      Nat.le_trans reached (after.appliedTxid_le_applyRecord record))
    (Nat.le_refl _)

/-! ## Mirrors of a history -/

/-- A catalog has the tree of the first mutations of a history. -/
structure Mirrors (catalog : Catalog) (history : List Operation) : Prop where
  bounded : catalog.appliedTxid ≤ history.length
  tree : catalog.tree = Tree.ofHistory history catalog.appliedTxid

theorem mirrors_new
    (directory : Location)
    (segmentSize : Nat)
    (history : List Operation) :
    (new (.ofSpans directory segmentSize [])).Mirrors history :=
  ⟨Nat.zero_le _, rfl⟩

/-- A record of the history keeps a mirror one. -/
theorem Mirrors.applyRecord
    (mirrors : catalog.Mirrors history)
    (word : history.length ≤ Word.max)
    (tells : record.Of history) :
    (catalog.applyRecord record).1.Mirrors history := by
  rcases catalog.applyRecord_cases record with same | next
  · rw [same]
    exact mirrors
  · have isNext := tells.2
    rw [next, Nat.add_sub_cancel] at isNext
    rw [applyRecord_next (Nat.le_trans tells.txid_le word) next]
    refine ⟨tells.txid_le, ?_⟩
    have grown := Tree.ofHistory_succ isNext
    rw [← mirrors.tree, ← next] at grown
    exact grown.symm

/-- A batch of records of the history keeps a mirror one. -/
theorem Mirrors.applyBatch
    (mirrors : catalog.Mirrors history)
    (word : history.length ≤ Word.max)
    {batch : List Record}
    (tell : ∀ record ∈ batch, record.Of history) :
    (catalog.applyBatch batch).1.Mirrors history :=
  applyBatch_induction (Mirrors · history)
    (fun _ record present kept => kept.applyRecord word (tell record present))
    mirrors

/-! ## Batches of slices -/

/-- Deliver batches one after the other. Each is abandoned at the first record
that is refused. -/
def deliver (catalog : Catalog) (batches : List (List Record)) : Catalog :=
  batches.foldl (fun catalog batch => (catalog.applyBatch batch).1) catalog

/-- The log of a catalog holds the first of the records that are delivered to
it, all of them in its buffers. -/
structure Copies (catalog : Catalog) (records : List Record) : Prop
    extends Mirrors catalog (records.map Record.operation) where
  unwritten : catalog.log.spans = []
  copied : catalog.log.buffered = records.take catalog.appliedTxid

variable {records : List Record}

theorem copies_new
    (directory : Location)
    (segmentSize : Nat)
    (records : List Record) :
    (new (.ofSpans directory segmentSize [])).Copies records :=
  ⟨mirrors_new directory segmentSize _, rfl, rfl⟩

/-- A record of the history is copied if it is the next one. -/
theorem Copies.applyRecord
    (copies : catalog.Copies records)
    (word : records.length ≤ Word.max)
    (numbered : Record.Numbered 1 records)
    (present : record ∈ records) :
    (catalog.applyRecord record).1.Copies records := by
  have mirrors := copies.toMirrors.applyRecord (by rwa [List.length_map])
    (numbered.of_mem present)
  rcases catalog.applyRecord_cases record with same | next
  · rw [same]
    exact copies
  · have found := (numbered.getElem?_of_mem present).2
    have reached := numbered.bounds present
    rw [next, Nat.add_sub_cancel] at found
    rw [applyRecord_next (by omega) next] at mirrors ⊢
    refine ⟨mirrors, copies.unwritten, ?_⟩
    have copied := copies.copied
    simp only [appliedTxid, Log.buffered] at found copied next ⊢
    rw [next, List.take_add_one, found, ← copied, List.append_assoc]
    rfl

/-- Batches of records of the history are copied as far as they go on with
it. -/
theorem Copies.deliver
    (copies : catalog.Copies records)
    (word : records.length ≤ Word.max)
    (numbered : Record.Numbered 1 records)
    {batches : List (List Record)}
    (slices : ∀ batch ∈ batches, batch <:+: records) :
    (catalog.deliver batches).Copies records := by
  induction batches generalizing catalog with
  | nil => exact copies
  | cons batch rest hypothesis =>
      obtain ⟨first, others⟩ := List.forall_mem_cons.mp slices
      refine hypothesis ?_ others
      exact applyBatch_induction (Copies · records)
        (fun _ record present kept =>
          kept.applyRecord word numbered (first.subset present)) copies

/-! ## The history of a catalog -/

/-- A catalog in use on a disk, and the records that it has logged. -/
structure Chronicle where
  disk : Disk
  catalog : Catalog
  /-- Every record that was logged, in order. -/
  records : List Record

namespace Chronicle

/-- What happens to a catalog in use. -/
inductive Event
  | call (call : Call)
  | upkeep (upkeep : Log.Upkeep)

/-- An empty catalog on a disk. -/
def start (disk : Disk) (directory : Location) (segmentSize : Nat) :
    Chronicle :=
  ⟨disk, new (.ofSpans directory segmentSize []), []⟩

/-- What a chronicle is after one more event. The records that a call logs are
those that it appends to the active buffer. -/
def step (chronicle : Chronicle) : Event → Chronicle
  | .call call =>
      let after := (chronicle.catalog.call call).1
      { chronicle with
        catalog := after
        records := chronicle.records ++
          after.log.active.drop chronicle.catalog.log.active.length }
  | .upkeep upkeep =>
      let (disk, log) := chronicle.catalog.log.keepUp chronicle.disk upkeep
      { chronicle with
        disk := disk, catalog := { chronicle.catalog with log := log } }

/-- What a chronicle is after a run of events. -/
def run (chronicle : Chronicle) (events : List Event) : Chronicle :=
  events.foldl step chronicle

theorem run_append_singleton
    (chronicle : Chronicle)
    (events : List Event)
    (last : Event) :
    chronicle.run (events ++ [last]) = (chronicle.run events).step last := by
  simp [run]

/-- The records of a chronicle retell the tree of its catalog. -/
structure Retells (chronicle : Chronicle) : Prop where
  numbered : Record.Numbered 1 chronicle.records
  whole : chronicle.records.length = chronicle.catalog.appliedTxid
  replays : Tree.root.applyAll (chronicle.records.map Record.operation) =
    .ok chronicle.catalog.tree

theorem retells_start (disk : Disk) (directory : Location) (segmentSize : Nat) :
    (start disk directory segmentSize).Retells :=
  ⟨rfl, rfl, rfl⟩

variable {chronicle : Chronicle}

/-- A run raises the transaction id applied by one an event at most. -/
theorem appliedTxid_run_le (chronicle : Chronicle) (events : List Event) :
    (chronicle.run events).catalog.appliedTxid ≤
      chronicle.catalog.appliedTxid + events.length := by
  induction events generalizing chronicle with
  | nil => exact Nat.le_refl _
  | cons first rest hypothesis =>
      have single : (chronicle.step first).catalog.appliedTxid ≤
          chronicle.catalog.appliedTxid + 1 := by
        cases first with
        | call call => exact chronicle.catalog.appliedTxid_call_le call
        | upkeep upkeep =>
            exact Nat.le_succ_of_le
              (Nat.le_of_eq (Log.keepUp_same _ _ upkeep).1)
      have others := hypothesis (chronicle.step first)
      rw [List.length_cons]
      exact Nat.le_trans others (by omega)

/-- An event logs one record at most, behind the others. -/
theorem Retells.step
    (retells : chronicle.Retells)
    (room : chronicle.catalog.appliedTxid < Word.max)
    (event : Event) :
    (chronicle.step event).Retells ∧
      ∃ more, (chronicle.step event).records = chronicle.records ++ more ∧
      more.length ≤ 1 := by
  have nothing : ∃ more, chronicle.records = chronicle.records ++ more ∧
      more.length ≤ 1 :=
    ⟨[], (List.append_nil _).symm, Nat.zero_le _⟩
  cases event with
  | upkeep upkeep =>
      refine ⟨⟨retells.numbered, ?_, retells.replays⟩, nothing⟩
      exact retells.whole.trans (Log.keepUp_same _ _ upkeep).1.symm
  | call call =>
      simp only [Chronicle.step]
      cases call with
      | stop =>
          simp only [Catalog.call, stop, List.drop_length, List.append_nil]
          exact ⟨⟨retells.numbered, retells.whole, retells.replays⟩, nothing⟩
      | mutate operation =>
          simp only [Catalog.call]
          rcases mutate_cases chronicle.catalog operation with
            same | ⟨tree, made, applied, logged⟩
          · simp only [same, List.drop_length, List.append_nil]
            exact ⟨retells, nothing⟩
          · simp only [logged, Log.append, List.drop_left]
            have next := Word.next_of_lt room
            refine ⟨⟨?_, ?_, ?_⟩, _, rfl, Nat.le_refl 1⟩
            · rw [Record.numbered_append]
              refine ⟨retells.numbered, ?_⟩
              rw [retells.whole, Nat.add_comm, ← next]
              rfl
            · rw [List.length_append, retells.whole]
              exact next.symm
            · rw [List.map_append]
              exact Tree.applyAll_append_singleton retells.replays applied

/-- A run retells its tree, and has had every transaction id up to its last
one. -/
theorem Retells.run
    (retells : chronicle.Retells)
    (events : List Event)
    (room : chronicle.catalog.appliedTxid + events.length ≤ Word.max) :
    (chronicle.run events).Retells ∧
      ∀ txid, chronicle.catalog.appliedTxid ≤ txid →
        txid ≤ (chronicle.run events).catalog.appliedTxid →
        ∃ earlier, earlier <+: events ∧
        (chronicle.run earlier).catalog.appliedTxid = txid := by
  induction events using List.reverseRecOn with
  | nil =>
      refine ⟨retells, fun txid above below => ⟨[], List.nil_prefix, ?_⟩⟩
      exact Nat.le_antisymm above below
  | append_singleton events last hypothesis =>
      rw [List.length_append, List.length_singleton] at room
      have reached := chronicle.appliedTxid_run_le events
      obtain ⟨before, moments⟩ := hypothesis (by omega)
      obtain ⟨after, more, grown, single⟩ := before.step (by omega) last
      rw [run_append_singleton]
      refine ⟨after, fun txid above below => ?_⟩
      by_cases reached : txid ≤ (chronicle.run events).catalog.appliedTxid
      · obtain ⟨earlier, isPrefix, same⟩ := moments txid above reached
        exact ⟨earlier, isPrefix.trans (List.prefix_append _ _), same⟩
      · refine ⟨events ++ [last], List.prefix_rfl, ?_⟩
        rw [run_append_singleton]
        have lengths := congrArg List.length grown
        rw [after.whole, List.length_append, before.whole] at lengths
        omega

/-- The records of an earlier moment are the first ones. -/
theorem Retells.records_prefix
    (retells : chronicle.Retells)
    {earlier events : List Event}
    (room : chronicle.catalog.appliedTxid + events.length ≤ Word.max)
    (isPrefix : earlier <+: events) :
    (chronicle.run earlier).records <+: (chronicle.run events).records := by
  obtain ⟨later, rfl⟩ := isPrefix
  induction later using List.reverseRecOn with
  | nil => simp
  | append_singleton later last hypothesis =>
      rw [← List.append_assoc, List.length_append,
        List.length_singleton] at room
      have reached := chronicle.appliedTxid_run_le (earlier ++ later)
      have hypothesis := hypothesis (by omega)
      rw [← List.append_assoc, run_append_singleton]
      obtain ⟨more, grown, -⟩ :=
        ((retells.run (earlier ++ later) (by omega)).1.step (by omega) last).2
      rw [grown]
      exact hypothesis.trans (List.prefix_append _ _)

/-- The first records of a run replay to the tree that it had with them. -/
theorem Retells.replays_earlier
    (retells : chronicle.Retells)
    {earlier events : List Event}
    (room : chronicle.catalog.appliedTxid + events.length ≤ Word.max)
    (isPrefix : earlier <+: events) :
    Tree.root.applyAll (((chronicle.run events).records.take
        (chronicle.run earlier).catalog.appliedTxid).map Record.operation) =
      .ok (chronicle.run earlier).catalog.tree := by
  have shorter := isPrefix.length_le
  have before := (retells.run earlier (by omega)).1
  have isFirst :=
    List.prefix_iff_eq_take.mp (retells.records_prefix room isPrefix)
  rw [before.whole] at isFirst
  rw [← isFirst]
  exact before.replays

end Chronicle

/-- A catalog that was delivered records stands where another one, which came
through a run of events, stood at the same transaction id. -/
structure Follows
    (catalog : Catalog)
    (chronicle : Chronicle)
    (events : List Chronicle.Event) : Prop where
  /-- The log holds exactly the first records of the history. -/
  copied : catalog.log.spans = [] ∧
    catalog.log.buffered =
      (chronicle.run events).records.take catalog.appliedTxid ∧
    catalog.log.buffered.length = catalog.appliedTxid
  /-- The tree is what these records make of an empty one. -/
  replayed : Tree.root.applyAll
    (((chronicle.run events).records.take catalog.appliedTxid).map
      Record.operation) = .ok catalog.tree
  /-- The other catalog once had this transaction id. -/
  passed : ∃ earlier, earlier <+: events ∧
    (chronicle.run earlier).catalog.appliedTxid = catalog.appliedTxid
  /-- Whenever it had, it had this tree. -/
  same : ∀ earlier, earlier <+: events →
    (chronicle.run earlier).catalog.appliedTxid = catalog.appliedTxid →
    (chronicle.run earlier).catalog.tree = catalog.tree ∧
      (chronicle.run earlier).catalog.tree.digest = catalog.tree.digest
  /-- No batch moves it back. -/
  forward : ∀ batch,
    catalog.appliedTxid ≤ (catalog.applyBatch batch).1.appliedTxid
  /-- The next record is new. -/
  next : ∀ record, (catalog.applyRecord record).2 = .ok true ↔
    record.txid = catalog.appliedTxid + 1
  /-- A record that it has is skipped. -/
  old : ∀ record,
    ((catalog.applyRecord record).2 = .ok false ↔
      record.txid ≤ catalog.appliedTxid) ∧
      (record.txid ≤ catalog.appliedTxid →
        (catalog.applyRecord record).1 = catalog)
  /-- Any other record is refused and changes nothing. -/
  ahead : ∀ record, catalog.appliedTxid + 1 < record.txid →
    catalog.applyRecord record =
      (catalog,
        .error (.log (.outOfOrder (catalog.appliedTxid + 1) record.txid)))

/-- Whether a record is new is decided by its transaction id. -/
theorem applyRecord_answer
    (room : catalog.appliedTxid < Word.max)
    (record : Record) :
    ((catalog.applyRecord record).2 = .ok true ↔
      record.txid = catalog.appliedTxid + 1) ∧
      ((catalog.applyRecord record).2 = .ok false ↔
        record.txid ≤ catalog.appliedTxid) := by
  rcases Nat.lt_trichotomy record.txid (catalog.appliedTxid + 1) with
    old | next | ahead
  · rw [applyRecord_old (Nat.le_of_lt_succ old)]
    exact ⟨iff_of_false (by simp) (by omega), iff_of_true rfl (by omega)⟩
  · rw [applyRecord_next (by omega) next]
    exact ⟨iff_of_true rfl next, iff_of_false (by simp) (by omega)⟩
  · rw [applyRecord_ahead ahead]
    exact ⟨iff_of_false nofun (by omega), iff_of_false nofun (by omega)⟩

/-- Whatever slices of a history are delivered to an empty catalog, in whatever
order and however often, it follows the catalog of that history. A batch that is
cut short is itself a slice, so this holds between any two records as well. The
history is shorter than there are transaction ids. -/
theorem deliver_follows
    (disk : Disk)
    (directory : Location)
    (segmentSize : Nat)
    {events : List Chronicle.Event}
    (room : events.length < Word.max)
    (ownDirectory : Location)
    (ownSegmentSize : Nat)
    (batches : List (List Record))
    (slices : ∀ batch ∈ batches,
      batch <:+:
        ((Chronicle.start disk directory segmentSize).run events).records) :
    ((new (.ofSpans ownDirectory ownSegmentSize [])).deliver batches).Follows
      (Chronicle.start disk directory segmentSize) events := by
  have start := Chronicle.retells_start disk directory segmentSize
  have words :
      (Chronicle.start disk directory segmentSize).catalog.appliedTxid +
      events.length ≤ Word.max := (Nat.zero_add _).symm ▸ Nat.le_of_lt room
  obtain ⟨retells, moments⟩ := start.run events words
  have total :
      ((Chronicle.start disk directory segmentSize).run events).records.length ≤
      events.length := by
    rw [retells.whole]
    exact Nat.le_trans (Chronicle.appliedTxid_run_le _ events)
      (Nat.le_of_eq (Nat.zero_add _))
  have copies := (copies_new ownDirectory ownSegmentSize _).deliver (by omega)
    retells.numbered slices
  generalize (new (.ofSpans ownDirectory ownSegmentSize [])).deliver batches =
    catalog at copies
  have bounded := copies.bounded
  rw [List.length_map] at bounded
  have same : ∀ earlier, earlier <+: events →
      ((Chronicle.start disk directory segmentSize).run
        earlier).catalog.appliedTxid =
        catalog.appliedTxid →
      ((Chronicle.start disk directory segmentSize).run earlier).catalog.tree =
        catalog.tree := by
    intro earlier isPrefix sameTxid
    have replays := start.replays_earlier words isPrefix
    rw [sameTxid, List.map_take] at replays
    rw [copies.tree]
    exact (Tree.absorbAll_of_applyAll replays).symm
  have below : catalog.appliedTxid < Word.max := by omega
  obtain ⟨earlier, isPrefix, sameTxid⟩ :=
    moments catalog.appliedTxid (Nat.zero_le _) (retells.whole ▸ bounded)
  refine ⟨⟨copies.unwritten, copies.copied, ?_⟩, ?_,
    ⟨earlier, isPrefix, sameTxid⟩,
    fun earlier isPrefix sameTxid => ?_, catalog.appliedTxid_le_applyBatch,
    fun record => (applyRecord_answer below record).1, fun record => ?_,
    fun _ => applyRecord_ahead⟩
  · rw [copies.copied, List.length_take, Nat.min_eq_left bounded]
  · rw [← same earlier isPrefix sameTxid, ← sameTxid]
    exact start.replays_earlier words isPrefix
  · exact ⟨same earlier isPrefix sameTxid,
      congrArg Tree.digest (same earlier isPrefix sameTxid)⟩
  · exact ⟨(applyRecord_answer below record).2,
      fun old => by rw [applyRecord_old old]⟩

/-- A batch that starts too far on, a repeated one, and one that overlaps. -/
theorem deliver_follows_overlapping :
    ((new (.ofSpans ["backup"] 0 [])).deliver
      [[⟨2, .createFile "/a/b"⟩, ⟨3, .makeDirectory "/c"⟩],
        [⟨1, .makeDirectory "/a"⟩, ⟨2, .createFile "/a/b"⟩],
        [⟨1, .makeDirectory "/a"⟩],
        [⟨2, .createFile "/a/b"⟩, ⟨3, .makeDirectory "/c"⟩]]).Follows
      (.start Disk.empty ["edits"] 0)
      [.call (.mutate (.makeDirectory "/a")),
        .call (.mutate (.createFile "/a/b")), .upkeep .roll,
        .call (.mutate (.createFile "/a/b")),
        .call (.mutate (.makeDirectory "/c")), .call .stop] :=
  deliver_follows Disk.empty ["edits"] 0 (by decide) ["backup"] 0
    [[⟨2, .createFile "/a/b"⟩, ⟨3, .makeDirectory "/c"⟩],
      [⟨1, .makeDirectory "/a"⟩, ⟨2, .createFile "/a/b"⟩],
      [⟨1, .makeDirectory "/a"⟩],
      [⟨2, .createFile "/a/b"⟩, ⟨3, .makeDirectory "/c"⟩]] (by decide +kernel)

end Catalog
end NameService
