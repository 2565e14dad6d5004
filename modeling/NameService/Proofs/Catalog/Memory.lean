import NameService.Proofs.Catalog.Delivery
import NameService.Proofs.Recovery.Order

/-!
# What a recovery starts from

A recovery starts from an image, a checkpoint id, and the records of the
segments. It applies the records above the replay floor to the tree of the
image. Records may be dropped, and the checkpoint id raised, without a
difference to what is recovered, if the image includes every record that is no
longer replayed.
-/

namespace NameService

/-- What a recovery starts from: an image, a checkpoint id, and the records of
the segments in their order. -/
@[ext] structure Memory where
  image : Option Image
  checkpointTxid : Nat
  records : List Record

namespace Memory

/-- The transaction id up to which no record is replayed. -/
def floor (memory : Memory) : Nat :=
  Recovery.replayFloor (memory.image.map Image.txid) memory.checkpointTxid

/-- The transaction id of the image; zero if there is none. -/
def imageTxid (memory : Memory) : Nat := (memory.image.map Image.txid).getD 0

/-- The tree onto which records are replayed. -/
def base (memory : Memory) : Tree :=
  (memory.image.map Image.root).getD Tree.root

/-- The records that are replayed. -/
def replayed (memory : Memory) : List Record :=
  memory.records.filter fun record => memory.floor < record.txid

/-- The tree that is recovered. -/
def tree (memory : Memory) : Tree :=
  memory.base.absorbAll (memory.replayed.map Record.operation)

/-- The transaction id that is recovered. -/
def txid (memory : Memory) : Nat :=
  max memory.imageTxid ((Log.maxTxid? memory.records).getD 0)

/-- An image is not behind the replay floor. -/
theorem floor_le (memory : Memory) : memory.floor ≤ memory.imageTxid := by
  unfold floor imageTxid Recovery.replayFloor
  cases memory.image with
  | none => exact Nat.le_refl _
  | some image => exact Nat.min_le_left _ _

/-- With a higher checkpoint id no record is replayed that was not replayed
before. -/
theorem floor_mono
    {before after : Memory}
    (sameImage : after.image = before.image)
    (raised : before.checkpointTxid ≤ after.checkpointTxid) :
    before.floor ≤ after.floor := by
  unfold floor Recovery.replayFloor
  rw [sameImage]
  cases before.image with
  | none => exact Nat.le_refl _
  | some image =>
      show min image.txid before.checkpointTxid ≤
        min image.txid after.checkpointTxid
      omega

end Memory

/-! ## Records that an image includes -/

/-- An image includes a record that it is not behind, and whose mutation changes
nothing when it is carried out on the image again. -/
structure Image.Includes (image : Image) (record : Record) : Prop where
  reached : record.txid ≤ image.txid
  settled : image.root.absorb record.operation = image.root

/-- The image of a history includes the records of the history up to its
transaction id. -/
theorem Image.includes_of_history
    {history : List Operation}
    {record : Record}
    (tells : record.Of history)
    {count : Nat}
    (reached : record.txid ≤ count) :
    Includes ⟨count, Tree.ofHistory history count⟩ record := by
  obtain ⟨positive, told⟩ := tells
  refine ⟨reached,
    Tree.absorb_of_decided (Tree.decided_absorbAll Tree.wellFormed_root ?_)⟩
  refine List.mem_of_getElem? (i := record.txid - 1) ?_
  rw [List.getElem?_take_of_lt (by omega), told]

namespace Log

variable {records : List Record}

/-- No record of those in order is behind the last one. -/
theorem le_maxTxid?
    (increasing : records.Pairwise fun left right => left.txid < right.txid)
    {record : Record}
    (present : record ∈ records) :
    record.txid ≤ (maxTxid? records).getD 0 := by
  rcases List.eq_nil_or_concat records with rfl | ⟨front, final, rfl⟩
  · cases present
  · rw [List.concat_eq_append] at increasing present ⊢
    simp only [maxTxid?, List.getLast?_concat, Option.map_some,
      Option.getD_some]
    rcases List.mem_append.mp present with inFront | isFinal
    · exact Nat.le_of_lt
        ((List.pairwise_append.mp increasing).2.2 record inFront final
          List.mem_cons_self)
    · rw [List.mem_singleton.mp isFinal]

/-- The transaction id of the last record is that of a record, if there is
any. -/
theorem maxTxid?_eq_zero_or (records : List Record) :
    (maxTxid? records).getD 0 = 0 ∨
      ∃ record ∈ records, record.txid = (maxTxid? records).getD 0 := by
  cases isLast : records.getLast? with
  | none => exact .inl (by simp [maxTxid?, isLast])
  | some last =>
      exact .inr ⟨last, List.mem_of_getLast? isLast, by simp [maxTxid?, isLast]⟩

end Log

/-- Records whose mutations the tree has decided may be left out. -/
theorem Tree.absorbAll_of_fewer
    {fewer records : List Record}
    (sublist : fewer.Sublist records)
    (distinct : records.Nodup)
    {tree : Tree}
    (decided : ∀ record ∈ records, record ∉ fewer →
      tree.Decided (Path.components record.operation.path)) :
    tree.absorbAll (fewer.map Record.operation) =
      tree.absorbAll (records.map Record.operation) := by
  induction sublist generalizing tree with
  | slnil => rfl
  | cons record sublist hypothesis =>
      obtain ⟨isNew, distinctRest⟩ := List.nodup_cons.mp distinct
      have leftOut := Tree.absorb_of_decided
        (decided record List.mem_cons_self fun present =>
          isNew (sublist.mem present))
      rw [List.map_cons, absorbAll_cons, leftOut]
      exact hypothesis distinctRest fun other present =>
        decided other (.tail _ present)
  | cons_cons record sublist hypothesis =>
      obtain ⟨isNew, distinctRest⟩ := List.nodup_cons.mp distinct
      rw [List.map_cons, List.map_cons, absorbAll_cons, absorbAll_cons]
      -- What the tree has decided stays decided when the record is applied to
      -- it.
      refine hypothesis distinctRest fun other present dropped => ?_
      refine (decided other (.tail _ present) fun kept => ?_).grows
        (grows_absorb tree _)
      rcases List.mem_cons.mp kept with rfl | inRest
      · exact isNew present
      · exact dropped inRest

namespace Memory

/-- What is recovered is the image, or the last record that is replayed,
whichever is further. -/
theorem max_highest
    (memory : Memory)
    (increasing : memory.records.Pairwise fun left right =>
      left.txid < right.txid) :
    max memory.imageTxid (Record.highest memory.floor memory.replayed) =
      memory.txid := by
  have behind := memory.floor_le
  have rising : Record.rising memory.floor memory.records = memory.replayed :=
    Record.rising_of_increasing increasing memory.floor
  refine Nat.le_antisymm ?_ ?_ <;> rw [txid]
  · rcases Record.highest_cases memory.floor memory.replayed with
      none | ⟨record, present, isLast⟩
    · omega
    · have within := Log.le_maxTxid? increasing (List.mem_filter.mp present).1
      omega
  · rcases Log.maxTxid?_eq_zero_or memory.records with
      none | ⟨record, present, isLast⟩
    · omega
    · have within := Record.txid_le_highest_rising memory.floor present
      rw [rising] at within
      omega

variable {before after : Memory}

/-- A memory of fewer records and with a higher checkpoint id recovers the same,
if the image includes every record that is no longer replayed. -/
theorem recovers_of_fewer
    (wellFormed : before.base.WellFormed)
    (increasing : before.records.Pairwise fun left right =>
      left.txid < right.txid)
    (sameImage : after.image = before.image)
    (raised : before.checkpointTxid ≤ after.checkpointTxid)
    (fewer : after.records.Sublist before.records)
    (included : ∀ record ∈ before.replayed, record ∉ after.replayed →
      ∃ image ∈ before.image, image.Includes record) :
    after.tree = before.tree ∧ after.txid = before.txid := by
  have floors := floor_mono sameImage raised
  have behind := before.floor_le
  have sameTxid : after.imageTxid = before.imageTxid := by
    rw [imageTxid, imageTxid, sameImage]
  have sameBase : after.base = before.base := by rw [base, base, sameImage]
  have sublist : after.replayed.Sublist before.replayed := by
    refine (fewer.filter _).trans
      (List.monotone_filter_right _ fun record above => ?_)
    simp only [decide_eq_true_eq] at above ⊢
    omega
  have distinct : before.replayed.Nodup := by
    refine (increasing.sublist List.filter_sublist).imp fun ordered same => ?_
    rw [same] at ordered
    exact Nat.lt_irrefl _ ordered
  constructor
  · rw [tree, tree, sameBase]
    refine Tree.absorbAll_of_fewer sublist distinct
      fun record present dropped => ?_
    obtain ⟨image, isImage, includes⟩ := included record present dropped
    have isBase : before.base = image.root := by
      simp [base, Option.mem_def.mp isImage]
    have decided := Tree.decided_absorb wellFormed record.operation
    rw [isBase] at decided ⊢
    rwa [includes.settled] at decided
  · have kept := increasing.sublist fewer
    -- A record ahead of the image cannot be one that the image includes.
    have later : ∀ record ∈ before.records, before.imageTxid < record.txid →
        record ∈ after.records := by
      intro record present ahead
      have replayed : record ∈ before.replayed :=
        List.mem_filter.mpr ⟨present, decide_eq_true (by omega)⟩
      by_contra dropped
      obtain ⟨image, isImage, includes⟩ := included record replayed
        fun still => dropped (List.mem_filter.mp still).1
      have isTxid : before.imageTxid = image.txid := by
        simp [imageTxid, Option.mem_def.mp isImage]
      have reached := includes.reached
      omega
    refine Nat.le_antisymm ?_ ?_ <;> simp only [txid, sameTxid]
    · rcases Log.maxTxid?_eq_zero_or after.records with
        none | ⟨record, present, isLast⟩
      · omega
      · have within := Log.le_maxTxid? increasing (fewer.mem present)
        omega
    · rcases Log.maxTxid?_eq_zero_or before.records with
        none | ⟨record, present, isLast⟩
      · omega
      · by_cases ahead : before.imageTxid < record.txid
        · have within := Log.le_maxTxid? kept (later record present ahead)
          omega
        · omega

end Memory

end NameService
