import NameService.Proofs.Log.Chapters
import NameService.Proofs.Tree.History
import NameService.Recovery

/-!
# Replaying segments

Segments that go on where a tree stands, or before it, bring the tree to the end
of the last one: records that the tree has are skipped, and the others are
applied in the order of their transaction ids.
-/

namespace NameService

/-! ## Records of a history -/

namespace Record

/-- The records of a history behind one transaction id and up to another. -/
def slice (history : List Operation) (start stop : Nat) : List Record :=
  (((history.drop start).take (stop - start)).zipIdx (start + 1)).map
    fun entry =>
    ⟨entry.2, entry.1⟩

/-- The mutations of a slice. -/
theorem map_operation_slice (history : List Operation) (start stop : Nat) :
    (slice history start stop).map operation =
      (history.drop start).take (stop - start) := by
  rw [slice, List.map_map]
  exact List.zipIdx_map_fst _ _

theorem length_slice
    {history : List Operation}
    {stop : Nat}
    (bounded : stop ≤ history.length)
    (start : Nat) :
    (slice history start stop).length = stop - start := by
  simp only [slice, List.length_map, List.length_zipIdx, List.length_take,
    List.length_drop]
  omega

/-- The records of a slice are numbered behind its start. -/
theorem numbered_slice (history : List Operation) (start stop : Nat) :
    Numbered (start + 1) (slice history start stop) := by
  rw [Numbered, slice, List.map_map, List.length_map, List.length_zipIdx]
  exact List.zipIdx_map_snd _ _

/-- Slices one behind the other are one slice. -/
theorem slice_append_slice
    (history : List Operation)
    {start middle stop : Nat}
    (first : start ≤ middle)
    (second : middle ≤ stop)
    (bounded : middle ≤ history.length) :
    slice history start middle ++ slice history middle stop =
      slice history start stop := by
  have split : (history.drop start).take (stop - start) =
      (history.drop start).take (middle - start) ++
        (history.drop middle).take (stop - middle) := by
    rw [show stop - start = (middle - start) + (stop - middle) by omega,
      List.take_add, List.drop_drop,
      show start + (middle - start) = middle by omega]
  have length : ((history.drop start).take (middle - start)).length =
      middle - start := by
    rw [List.length_take, List.length_drop]
    omega
  rw [slice, slice, slice, split, List.zipIdx_append, List.map_append, length,
    show start + 1 + (middle - start) = middle + 1 by omega]

/-- A slice sees only the part of a history before its end. -/
theorem slice_take
    (history : List Operation)
    (start : Nat)
    {stop count : Nat}
    (within : stop ≤ count) :
    slice (history.take count) start stop = slice history start stop := by
  rw [slice, slice, List.drop_take, List.take_take,
    show min (stop - start) (count - start) = stop - start by omega]

/-- A slice does not see what comes behind its end. -/
theorem slice_append
    (history more : List Operation)
    (start : Nat)
    {stop : Nat}
    (within : stop ≤ history.length) :
    slice (history ++ more) start stop = slice history start stop := by
  rw [← slice_take (history ++ more) start within, List.take_left]

/-- The last mutation of a history is its last record. -/
theorem slice_last (history : List Operation) (operation : Operation) :
    slice (history ++ [operation]) history.length (history.length + 1) =
      [⟨history.length + 1, operation⟩] := by
  simp [slice]

end Record

namespace Recovery

/-! ## Replaying records -/

/-- Apply records in order, without those that the tree has. -/
def replayRecords (tree : Tree) (progress : Progress) (records : List Record) :
    Tree × Progress :=
  records.foldl (fun state record => replayRecord state.1 state.2 record)
    (tree, progress)

/-- Lines that are all records are replayed as their records. -/
theorem replayLines_map_ok
    (tree : Tree)
    (progress : Progress)
    (records : List Record) :
    replayLines tree progress (records.map .ok) =
      ((replayRecords tree progress records).1,
        .ok (replayRecords tree progress records).2) := by
  induction records generalizing tree progress with
  | nil => rfl
  | cons record records hypothesis =>
      rw [List.map_cons, replayLines]
      exact hypothesis _ _

/-- Records that the tree has are skipped. -/
theorem replayRecords_of_le
    (tree : Tree)
    (progress : Progress)
    {records : List Record}
    (old : ∀ record ∈ records, record.txid ≤ progress.lastTxid) :
    replayRecords tree progress records = (tree, progress) := by
  induction records with
  | nil => rfl
  | cons record records hypothesis =>
      obtain ⟨first, behind⟩ := List.forall_mem_cons.mp old
      have skipped : replayRecord tree progress record = (tree, progress) := by
        rw [replayRecord, if_pos first]
      rw [replayRecords, List.foldl_cons, skipped]
      exact hypothesis behind

/-- Records that go on behind the tree are applied. -/
theorem replayRecords_of_numbered
    (tree : Tree)
    (progress : Progress)
    {records : List Record}
    (numbered : Record.Numbered (progress.lastTxid + 1) records) :
    (replayRecords tree progress records).1 =
      tree.absorbAll (records.map Record.operation) ∧
      (replayRecords tree progress records).2.lastTxid =
        progress.lastTxid + records.length := by
  induction records generalizing tree progress with
  | nil => exact ⟨rfl, rfl⟩
  | cons record records hypothesis =>
      obtain ⟨first, behind⟩ := Record.numbered_append.mp
        (show Record.Numbered (progress.lastTxid + 1) ([record] ++ records) from
          numbered)
      have isNext : record.txid = progress.lastTxid + 1 := by
        simpa [Record.Numbered] using first
      have applied : replayRecord tree progress record =
          (tree.absorb record.operation,
            { progress with
              applied := progress.applied + 1, lastTxid := record.txid }) := by
        rw [replayRecord, if_neg (by omega)]
      rw [replayRecords, List.foldl_cons, applied]
      obtain ⟨sameTree, sameTxid⟩ := hypothesis (tree.absorb record.operation)
        { progress with
          applied := progress.applied + 1, lastTxid := record.txid }
        (by simpa [isNext] using behind)
      refine ⟨sameTree, ?_⟩
      rw [List.length_cons]
      exact sameTxid.trans (by simp only [isNext]; omega)

/-- A slice that starts where the tree stands, or before, brings the tree to its
end. -/
theorem replayRecords_slice
    (history : List Operation)
    (tree : Tree)
    (progress : Progress)
    {start stop : Nat}
    (reaches : start ≤ progress.lastTxid)
    (bounded : stop ≤ history.length) :
    (replayRecords tree progress (Record.slice history start stop)).1 =
        tree.absorbAll
          ((history.drop progress.lastTxid).take (stop - progress.lastTxid)) ∧
      (replayRecords tree progress
        (Record.slice history start stop)).2.lastTxid =
        max progress.lastTxid stop := by
  have length := Record.length_slice bounded start
  have whole := List.take_append_drop (progress.lastTxid - start)
    (Record.slice history start stop)
  obtain ⟨front, back⟩ := Record.numbered_append.mp
    (whole.symm ▸ Record.numbered_slice history start stop)
  have skipped := replayRecords_of_le tree progress fun record present => by
    have bounds := front.bounds present
    rw [List.length_take] at bounds
    omega
  have split : replayRecords tree progress (Record.slice history start stop) =
      replayRecords tree progress
        ((Record.slice history start stop).drop
          (progress.lastTxid - start)) := by
    rw [← congrArg (replayRecords tree progress) whole, replayRecords,
      List.foldl_append]
    rw [replayRecords] at skipped
    rw [skipped]
    rfl
  have numbered : Record.Numbered (progress.lastTxid + 1)
      ((Record.slice history start stop).drop (progress.lastTxid - start)) := by
    by_cases ended : stop ≤ progress.lastTxid
    · rw [List.drop_of_length_le (by omega)]
      exact Record.numbered_nil _
    · rw [List.length_take, length] at back
      rwa [show start + 1 + min (progress.lastTxid - start) (stop - start) =
        progress.lastTxid + 1 by omega] at back
  have operations : ((Record.slice history start stop).drop
      (progress.lastTxid - start)).map Record.operation =
      (history.drop progress.lastTxid).take (stop - progress.lastTxid) := by
    rw [List.map_drop, Record.map_operation_slice, List.drop_take,
      List.drop_drop,
      show start + (progress.lastTxid - start) = progress.lastTxid by omega,
      show stop - start - (progress.lastTxid - start) =
        stop - progress.lastTxid by omega]
  obtain ⟨sameTree, sameTxid⟩ :=
    replayRecords_of_numbered tree progress numbered
  rw [split]
  refine ⟨operations ▸ sameTree, ?_⟩
  rw [sameTxid, List.length_drop, length]
  omega

end Recovery

/-! ## Replaying spans -/

namespace Span

/-- Spans leave nothing out behind a transaction id: each starts at the next one
at the latest. -/
def Continues (reached : Nat) : List Span → Prop
  | [] => True
  | span :: rest =>
      0 < span.first ∧ span.first ≤ reached + 1 ∧
        Continues (max reached span.last) rest

/-- The transaction id that is reached with spans from another one. -/
def reach (reached : Nat) : List Span → Nat
  | [] => reached
  | span :: rest => reach (max reached span.last) rest

theorem le_reach (reached : Nat) (spans : List Span) :
    reached ≤ reach reached spans := by
  induction spans generalizing reached with
  | nil => exact Nat.le_refl _
  | cons span rest hypothesis =>
      exact Nat.le_trans (Nat.le_max_left _ _) (hypothesis _)

/-- Spans that leave nothing out do so from any later transaction id. -/
theorem Continues.mono
    {reached later : Nat}
    {spans : List Span}
    (continues : Continues reached spans)
    (further : reached ≤ later) :
    Continues later spans := by
  induction spans generalizing reached later with
  | nil => trivial
  | cons span rest hypothesis =>
      obtain ⟨positive, starts, behind⟩ := continues
      exact ⟨positive, by omega, hypothesis behind (by omega)⟩

theorem reach_append (reached : Nat) (left right : List Span) :
    reach reached (left ++ right) = reach (reach reached left) right := by
  induction left generalizing reached with
  | nil => rfl
  | cons span rest hypothesis => exact hypothesis _

/-- Spans that leave nothing out do so in each of two parts. -/
theorem continues_append {reached : Nat} {left right : List Span} :
    Continues reached (left ++ right) ↔
      Continues reached left ∧ Continues (reach reached left) right := by
  induction left generalizing reached with
  | nil => simp [Continues, reach]
  | cons span rest hypothesis =>
      rw [List.cons_append, Continues, Continues, reach, hypothesis, and_assoc,
        and_assoc]

theorem reach_max (reached later : Nat) (spans : List Span) :
    reach (max reached later) spans = max (reach reached spans) later := by
  induction spans generalizing reached with
  | nil => rfl
  | cons span rest hypothesis =>
      rw [reach, reach, Nat.max_right_comm, hypothesis]

end Span

namespace Recovery

/-- The segments of a directory hold the records of a history. -/
def Holds
    (disk : Disk)
    (directory : Location)
    (history : List Operation)
    (spans : List Span) : Prop :=
  ∀ span ∈ spans, span.last ≤ history.length ∧ span.last ≤ Word.max ∧
    disk.item? (Segment.location directory span) =
      some (.file
        (Segment.bytes (Record.slice history (span.first - 1) span.last)))

/-- The segment of a span is read as the records of the history. -/
theorem readLines_slice
    (history : List Operation)
    {start stop : Nat}
    (bounded : stop ≤ history.length)
    (word : stop ≤ Word.max) :
    Segment.readLines (Segment.bytes (Record.slice history start stop)) =
      (Record.slice history start stop).map .ok := by
  refine Segment.readLines_bytes fun record present => ?_
  have bounds := (Record.numbered_slice history start stop).bounds present
  rw [Record.length_slice bounded] at bounds
  omega

/-- Spans that leave nothing out behind the tree bring it to the last
transaction id that they reach. -/
theorem replaySpans_of_holds
    {disk : Disk}
    {directory : Location}
    {history : List Operation}
    {spans : List Span}
    (holds : Holds disk directory history spans)
    (tree : Tree)
    (progress : Progress)
    {floor : Nat}
    (above : floor ≤ progress.lastTxid)
    (continues : Span.Continues progress.lastTxid spans) :
    ∃ after,
      replaySpans disk directory floor tree progress spans =
        (tree.absorbAll ((history.drop progress.lastTxid).take
          (Span.reach progress.lastTxid spans - progress.lastTxid)),
          .ok after) ∧
      after.lastTxid = Span.reach progress.lastTxid spans := by
  induction spans generalizing tree progress with
  | nil => exact ⟨progress, by simp [replaySpans, Span.reach], rfl⟩
  | cons span rest hypothesis =>
      obtain ⟨positive, starts, behind⟩ := continues
      obtain ⟨⟨bounded, word, stored⟩, restHolds⟩ :=
        List.forall_mem_cons.mp holds
      rw [replaySpans]
      by_cases skipped : span.last ≤ floor
      · have same : max progress.lastTxid span.last = progress.lastTxid := by
          omega
        rw [if_pos skipped, Span.reach, same]
        rw [same] at behind
        exact hypothesis restHolds tree progress above behind
      · have held : disk.read (Segment.location directory span) =
            .ok (Segment.bytes
              (Record.slice history (span.first - 1) span.last)) := by
          simp [Disk.read, stored]
        rw [if_neg skipped, held]
        simp only
        rw [readLines_slice history bounded word, replayLines_map_ok]
        obtain ⟨sameTree, sameTxid⟩ := replayRecords_slice history tree
          { progress with segments := progress.segments + 1 }
          (show span.first - 1 ≤ progress.lastTxid by omega) bounded
        simp only at sameTree sameTxid ⊢
        rw [sameTree]
        rw [← sameTxid] at behind
        obtain ⟨after, replayed, reached⟩ := hypothesis restHolds
          (tree.absorbAll
            ((history.drop progress.lastTxid).take
              (span.last - progress.lastTxid))) _ (by rw [sameTxid]; omega)
          behind
        rw [sameTxid] at replayed reached
        refine ⟨after, ?_, reached⟩
        rw [replayed, ← Tree.absorbAll_append, Span.reach]
        have further := Span.le_reach (max progress.lastTxid span.last) rest
        congr 3
        by_cases old : span.last ≤ progress.lastTxid
        · rw [Nat.max_eq_left old, Nat.sub_eq_zero_of_le old, List.take_zero,
            List.nil_append]
        · have beyond : progress.lastTxid ≤ span.last := Nat.le_of_not_le old
          rw [Nat.max_eq_right beyond] at further ⊢
          rw [show Span.reach span.last rest - progress.lastTxid =
              (span.last - progress.lastTxid) +
                (Span.reach span.last rest - span.last) by omega,
            List.take_add, List.drop_drop,
            show progress.lastTxid + (span.last - progress.lastTxid) =
              span.last by omega]

end Recovery
end NameService
