import NameService.Catalog
import NameService.Proofs.Log.Listing
import NameService.Proofs.Recovery.Replay

/-!
# Where recovery starts from

A namespace is recovered to the same tree from any image of its history and any
checkpoint id, as long as the segments go on behind the earlier of the two.
-/

namespace NameService

namespace Span

/-- Spans that tile a range leave nothing out behind its start. -/
theorem Tile.continues
    {start stop : Nat}
    {spans : List Span}
    (tile : Tile start stop spans) :
    Continues start spans ∧ reach start spans = stop := by
  induction spans generalizing start with
  | nil => exact ⟨trivial, tile⟩
  | cons span rest hypothesis =>
      obtain ⟨starts, ordered, behind⟩ := tile
      obtain ⟨continues, reaches⟩ := hypothesis behind
      rw [Continues, reach, Nat.max_eq_right (by omega)]
      exact ⟨⟨by omega, by omega, continues⟩, reaches⟩

theorem le_reach_of_mem
    {spans : List Span}
    {span : Span}
    (present : span ∈ spans)
    (reached : Nat) :
    span.last ≤ reach reached spans := by
  induction spans generalizing reached with
  | nil => cases present
  | cons first rest hypothesis =>
      rcases List.mem_cons.mp present with rfl | behind
      · exact Nat.le_trans (Nat.le_max_right _ _) (le_reach _ rest)
      · exact hypothesis behind _

theorem lastCovered_le_reach (reached : Nat) (spans : List Span) :
    Log.lastCovered spans ≤ reach reached spans := by
  unfold Log.lastCovered
  cases isLast : spans.getLast? with
  | none => exact Nat.zero_le _
  | some span => exact le_reach_of_mem (List.mem_of_getLast? isLast) reached

end Span

namespace Log

/-- A log that is opened over segments and advanced at least to their end. -/
theorem advanceTo_ofSpans
    (directory : Location)
    (segmentSize : Nat)
    {spans : List Span}
    {txid : Nat}
    (ahead : lastCovered spans ≤ txid) :
    (ofSpans directory segmentSize spans).advanceTo txid =
      ⟨directory, segmentSize, [], txid, [], spans, txid⟩ := by
  rw [advanceTo]
  split
  · rename_i reached
    have same : lastCovered spans = txid := Nat.le_antisymm ahead reached
    simp [ofSpans, same]
  · simp [ofSpans, Nat.max_eq_right ahead]

end Log

namespace Catalog

variable {disk : Disk} {directory : Location} {history : List Operation}
  {spans : List Span}

/-- Recovery from an image of a history, or none, over segments that leave
nothing out behind the replay floor. -/
theorem recover_of_holds
    (stands : disk.Stands directory)
    (listed : Segment.list disk directory = .ok spans)
    (holds : Recovery.Holds disk directory history spans)
    (segmentSize checkpointTxid : Nat)
    (image : Option Image)
    (described : ∀ known ∈ image,
      known.root = Tree.ofHistory history known.txid)
    {floor : Nat}
    (isFloor : Recovery.replayFloor (image.map Image.txid) checkpointTxid =
      floor)
    (continues : Span.Continues floor spans)
    {txid : Nat}
    (reaches : max ((image.map Image.txid).getD 0) (Span.reach floor spans) =
      txid) :
    recover disk directory segmentSize image checkpointTxid =
      (disk,
        .ok ⟨Tree.ofHistory history txid,
          ⟨directory, segmentSize, [], txid, [], spans, txid⟩,
        true⟩) := by
  subst reaches
  have base : (image.map Image.root).getD Tree.root =
      Tree.ofHistory history ((image.map Image.txid).getD 0) := by
    cases image with
    | none => rfl
    | some known => exact described known rfl
  have isDirectory :
      (Tree.ofHistory history ((image.map Image.txid).getD 0)).isFile =
        false := by
    simp [Tree.isFile, Tree.kind_ofHistory]
  have within : floor ≤ (image.map Image.txid).getD 0 := by
    subst isFloor
    cases image with
    | none => exact Nat.le_refl 0
    | some known => exact Nat.min_le_left _ _
  obtain ⟨progress, replayed, reached⟩ := Recovery.replaySpans_of_holds holds
    (Tree.ofHistory history ((image.map Image.txid).getD 0)) ⟨0, floor, 0⟩
    (Nat.le_refl floor) continues
  have tree := Tree.ofHistory_absorbAll history within (Span.reach floor spans)
  have ahead : Log.lastCovered spans ≤
      max ((image.map Image.txid).getD 0) (Span.reach floor spans) :=
    Nat.le_trans (Span.lastCovered_le_reach floor spans) (Nat.le_max_right _ _)
  simp only at replayed reached
  rw [tree] at replayed
  unfold recover
  rw [base, Image.namespaceRoot, isDirectory]
  simp only [Bool.false_eq_true, if_false, Recovery.replay, isFloor, listed,
    replayed, Log.openAt, Disk.makeDirectories_of_stands stands, Except.map,
    reached]
  rw [Log.advanceTo_ofSpans directory segmentSize ahead]

/-- A recovery gave the tree of a history after so many mutations, and the next
mutation is logged under the transaction id behind them. -/
def Recovers
    (outcome : Disk × Except ServiceError Catalog)
    (history : List Operation)
    (txid : Nat) : Prop :=
  ∃ catalog, outcome.2 = .ok catalog ∧
    catalog.tree = Tree.ofHistory history txid ∧
    catalog.appliedTxid = txid ∧
    ∀ operation, (catalog.log.append operation).2.txid = Word.next txid

/-- Recovery does not depend on the image and the checkpoint id it starts from.
Over segments that hold a history behind a transaction id, cut in any way, an
image at or behind that id, with any checkpoint id at or behind it, is recovered
to the tree at the end of the segments, or at the image if that is ahead. If the
segments hold the history from its beginning, the same goes without an image. -/
theorem recovers_of_tile
    (stands : disk.Stands directory)
    {names : List String}
    (named : disk.names directory = .ok names)
    (same : (names.filterMap Span.ofFileName?).Perm spans)
    {start stop : Nat}
    (tile : Span.Tile start stop spans)
    (bounded : stop ≤ history.length)
    (word : stop ≤ Word.max)
    (stored : ∀ span ∈ spans, disk.item? (Segment.location directory span) =
      some (.file
        (Segment.bytes (Record.slice history (span.first - 1) span.last))))
    (segmentSize checkpointTxid : Nat) :
    (∀ imageTxid, start ≤ min imageTxid checkpointTxid →
      Recovers
        (recover disk directory segmentSize
          (some ⟨imageTxid, Tree.ofHistory history imageTxid⟩) checkpointTxid)
        history (max imageTxid stop)) ∧
      (start = 0 →
        Recovers (recover disk directory segmentSize none checkpointTxid)
          history stop) := by
  have ascending := tile.ascending.1
  have listed := Segment.list_of_perm stands.item?_eq named same ascending
  have holds : Recovery.Holds disk directory history spans :=
    fun span present =>
    have limited := ascending.limited span present
    ⟨Nat.le_trans limited bounded, Nat.le_trans limited word,
      stored span present⟩
  obtain ⟨continues, reaches⟩ := tile.continues
  constructor
  · intro imageTxid covered
    have reached : Span.reach (min imageTxid checkpointTxid) spans =
        max stop (min imageTxid checkpointTxid) := by
      rw [← reaches, ← Span.reach_max, Nat.max_eq_right covered]
    have reaches :
        max imageTxid (Span.reach (min imageTxid checkpointTxid) spans) =
        max imageTxid stop := by omega
    rw [recover_of_holds stands listed holds segmentSize checkpointTxid
      (some ⟨imageTxid, Tree.ofHistory history imageTxid⟩)
      (fun known isKnown => by obtain rfl := Option.some.inj isKnown; rfl) rfl
      (continues.mono covered) reaches]
    exact ⟨_, rfl, rfl, rfl, fun _ => rfl⟩
  · rintro rfl
    have reaches : max 0 (Span.reach 0 spans) = stop := by omega
    rw [recover_of_holds stands listed holds segmentSize checkpointTxid none
      (fun known isKnown => by cases isKnown) rfl continues reaches]
    exact ⟨_, rfl, rfl, rfl, fun _ => rfl⟩

/-- An image ahead of the checkpoint id, over two segments of which it covers
the first. -/
theorem recovers_of_two_segments :
    let history : List Operation :=
      [.makeDirectory "/a", .createFile "/a/b", .createFile "/c"]
    let edits (span : Span) : Location × Disk.Item :=
      (["edits", span.fileName],
        .file (Segment.bytes (Record.slice history (span.first - 1) span.last)))
    Recovers
      (recover
        ⟨[edits ⟨3, 3⟩, edits ⟨2, 2⟩, (["edits"], .directory)], 0,
          fun _ => none⟩ ["edits"] 0 (some ⟨2, Tree.ofHistory history 2⟩) 1)
      history 3 := by
  intro history edits
  have named :
      (⟨[edits ⟨3, 3⟩, edits ⟨2, 2⟩, (["edits"], .directory)], 0,
          fun _ => none⟩ :
      Disk).names ["edits"] = .ok ["3_3.log", "2_2.log"] := by rfl
  have same :
      (["3_3.log", "2_2.log"].filterMap Span.ofFileName?).Perm
        [⟨2, 2⟩, ⟨3, 3⟩] := by
    decide
  have tile : Span.Tile 1 3 [⟨2, 2⟩, ⟨3, 3⟩] :=
    ⟨rfl, by decide, rfl, by decide, rfl⟩
  exact (recovers_of_tile (by decide) named same tile (by decide) (by decide)
    (by decide) 0 1).1 2 (by decide)

end Catalog
end NameService
