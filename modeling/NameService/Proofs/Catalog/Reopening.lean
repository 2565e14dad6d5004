import NameService.Proofs.Catalog.Memory
import NameService.Proofs.Catalog.Recovery
import NameService.Proofs.Image.Validity
import NameService.Proofs.Log.Archive
import NameService.Proofs.Log.Course
import NameService.Proofs.Recovery.Order

/-!
# Recovery over an archive

What a catalog is recovered to over an archive, whatever the image and the
checkpoint id: the records above the replay floor are applied to the tree of the
image. The log lists every segment, buffers nothing, and goes on behind the last
one.
-/

namespace NameService

namespace Log

/-! ## Opening over segments -/

/-- A log that is opened over segments and advanced, or not, to a transaction
id. -/
theorem advanceTo_ofSpans_eq
    (directory : Location)
    (segmentSize : Nat)
    (spans : List Span)
    (txid : Nat) :
    (ofSpans directory segmentSize spans).advanceTo txid =
      ⟨directory, segmentSize, [], max (lastCovered spans) txid, [], spans,
        max (lastCovered spans) txid⟩ := by
  by_cases ahead : lastCovered spans ≤ txid
  · rw [advanceTo_ofSpans directory segmentSize ahead, Nat.max_eq_right ahead]
  · have behind : txid ≤ lastCovered spans := Nat.le_of_not_le ahead
    rw [Nat.max_eq_left behind, advanceTo, if_pos (show txid ≤
      (ofSpans directory segmentSize spans).lastTxid from behind)]
    rfl

/-- The transaction id of the last record of chapters is the end of their
spans. -/
theorem maxTxid?_flatMap_records
    {limit : Nat}
    {chapters : List Chapter}
    (ascending : Span.Ascending limit (chapters.map Chapter.span)) :
    (maxTxid? (chapters.flatMap Chapter.records)).getD 0 =
      lastCovered (chapters.map Chapter.span) := by
  rcases List.eq_nil_or_concat chapters with rfl | ⟨front, final, rfl⟩
  · rfl
  · rw [List.concat_eq_append] at ascending ⊢
    have ordered := ascending.ordered final.span
      (List.mem_map_of_mem (List.mem_append_right _ List.mem_cons_self))
    have complete := final.complete
    have nonempty : final.records ≠ [] := by
      intro empty
      rw [empty, List.length_nil] at complete
      omega
    have ends := final.numbered.maxTxid? nonempty
    rw [maxTxid?, Option.map_eq_some_iff] at ends
    obtain ⟨record, isLast, reaches⟩ := ends
    rw [List.flatMap_append, maxTxid?, List.getLast?_append]
    simp only [List.flatMap_cons, List.flatMap_nil, List.append_nil, isLast,
      Option.some_or, Option.map_some, Option.getD_some, reaches, lastCovered,
      List.map_append, List.map_cons, List.map_nil, List.getLast?_append,
      List.getLast?_singleton]
    omega

/-- The segments of an archive are listed. -/
theorem Archived.list_eq
    {log : Log}
    {disk : Disk}
    {chapters : List Chapter}
    (archived : log.Archived disk chapters)
    (stands : disk.Stands log.directory)
    (word : log.flushedTxid ≤ Word.max) :
    Segment.list disk log.directory = .ok (chapters.map Chapter.span) :=
  Segment.Listed.list_eq archived.filed stands.item?_eq
    archived.shelved.ascending word

/-- An archive is one for the log that is opened anew over all its segments. -/
theorem Archived.reopen
    {log : Log}
    {disk : Disk}
    {chapters : List Chapter}
    (archived : log.Archived disk chapters)
    (segmentSize : Nat)
    {txid : Nat}
    (covered : lastCovered (chapters.map Chapter.span) ≤ txid) :
    Archived
      ⟨log.directory, segmentSize, [], txid, [], chapters.map Chapter.span,
        txid⟩ disk chapters := by
  have before := archived.shelved
  have shelved :
      Shelved ⟨log.directory, segmentSize, [], txid, [],
          chapters.map Chapter.span,
      txid⟩ disk chapters := by
    refine ⟨rfl, fun chapter present => before.stored chapter present,
      ⟨before.ascending.apart, fun span present => ?_,
        before.ascending.ordered⟩, rfl, rfl⟩
    exact Nat.le_trans (before.ascending.le_lastCovered present) covered
  exact shelved.archived archived.filed

/-- The segments of an archive are replayed onto an image without a fault. -/
theorem Archived.replay
    {log : Log}
    {disk : Disk}
    {chapters : List Chapter}
    (archived : log.Archived disk chapters)
    (stands : disk.Stands log.directory)
    (word : log.flushedTxid ≤ Word.max)
    (memory : Memory)
    (recalls : memory.records = chapters.flatMap Chapter.records) :
    Recovery.replay disk log.directory memory.floor memory.base =
      (memory.tree,
        .ok ⟨memory.replayed.length,
          Record.highest memory.floor memory.replayed,
        (Recovery.opened memory.floor
          (chapters.map Chapter.span)).length⟩) := by
  have ascending := archived.shelved.ascending
  have words : ∀ chapter ∈ chapters, chapter.span.last ≤ Word.max :=
    fun chapter present =>
    Nat.le_trans (ascending.limited _ (List.mem_map_of_mem present)) word
  have isRead : ∀ chapter ∈ chapters,
      Segment.read disk log.directory chapter.span = .ok chapter.records :=
    fun chapter present =>
    Segment.read_of_item? (archived.shelved.stored chapter present)
      fun _ inChapter =>
      Nat.le_trans (Course.covers_of_mem inChapter).2 (words chapter present)
  refine Recovery.replay_of_increasing isRead
    (Course.pairwise_flatMap_records ascending) (archived.list_eq stands word)
    memory.floor memory.base ?_
  rw [Memory.replayed, recalls]

/-- What is recovered over an archive is not behind its segments, and a word. -/
theorem Archived.txid_bounds
    {log : Log}
    {disk : Disk}
    {chapters : List Chapter}
    (archived : log.Archived disk chapters)
    (word : log.flushedTxid ≤ Word.max)
    (memory : Memory)
    (recalls : memory.records = chapters.flatMap Chapter.records)
    (imageWord : ∀ known ∈ memory.image, known.txid ≤ Word.max) :
    lastCovered (chapters.map Chapter.span) ≤ memory.txid ∧
      memory.txid ≤ Word.max := by
  have ends := maxTxid?_flatMap_records archived.shelved.ascending
  have covered := archived.shelved.ascending.lastCovered_le
  simp only [flushedTxid_relisted] at covered
  have imageTxid : memory.imageTxid ≤ Word.max := by
    unfold Memory.imageTxid
    cases found : memory.image with
    | none => exact Nat.zero_le _
    | some known => exact imageWord known found
  rw [Memory.txid, recalls, ends]
  omega

end Log

/-! ## Recovering -/

namespace Image

/-- An image that is loaded was decoded. -/
theorem decode_of_load
    {disk : Disk}
    {location : Location}
    {image : Option Image}
    (loaded : load disk location = .ok image) :
    ∀ known ∈ image, ∃ content, decode content = .ok known := by
  intro known isKnown
  unfold load at loaded
  split at loaded
  · split at loaded
    · cases loaded
    · split at loaded
      · rename_i held decoded
        obtain rfl := Except.ok.inj loaded
        obtain rfl := Option.some.inj isKnown
        exact ⟨_, decoded⟩
      · cases loaded
  · obtain rfl := Except.ok.inj loaded
    cases isKnown

/-- The transaction id of an image that is loaded is a word. -/
theorem txid_le_of_load
    {disk : Disk}
    {location : Location}
    {image : Option Image}
    (loaded : load disk location = .ok image) :
    ∀ known ∈ image, known.txid ≤ Word.max := by
  intro known isKnown
  obtain ⟨content, decoded⟩ := decode_of_load loaded known isKnown
  exact txid_le_of_decode decoded

/-- An image that is loaded is the image of a namespace. -/
theorem rooted_of_load
    {disk : Disk}
    {location : Location}
    {image : Option Image}
    (loaded : load disk location = .ok image) :
    ∀ known ∈ image, known.root.Rooted := by
  intro known isKnown
  obtain ⟨content, decoded⟩ := decode_of_load loaded known isKnown
  obtain ⟨entries, -, -, wellFormed, isDirectory, isRoot, -⟩ :=
    entries_of_decode decoded
  exact ⟨wellFormed, isDirectory, isRoot⟩

end Image

/-- What is recovered from the image of a namespace is the tree of one. -/
theorem Memory.rooted_tree
    (memory : Memory)
    (rooted : ∀ known ∈ memory.image, known.root.Rooted) :
    memory.tree.Rooted := by
  have base : memory.base.Rooted := by
    unfold Memory.base
    cases found : memory.image with
    | none => exact Tree.rooted_root
    | some known => exact rooted known found
  exact base.absorbAll _

/-- A replay starts on the tree of the image, which is a directory, or on an
empty one. -/
theorem Memory.namespaceRoot_base
    (memory : Memory)
    (directories : ∀ known ∈ memory.image, known.root.kind = .directory) :
    Image.namespaceRoot memory.base = .ok memory.base := by
  have isDirectory : memory.base.isFile = false := by
    unfold base
    cases found : memory.image with
    | none => rfl
    | some known => simp [Tree.isFile, directories known found]
  simp [Image.namespaceRoot, isDirectory]

namespace Catalog

variable {log : Log} {disk : Disk} {chapters : List Log.Chapter}

/-- What a catalog is recovered to over an archive. -/
theorem recover_of_archived
    (archived : log.Archived disk chapters)
    (stands : disk.Stands log.directory)
    (word : log.flushedTxid ≤ Word.max)
    {image : Option Image}
    (directories : ∀ known ∈ image, known.root.kind = .directory)
    (segmentSize checkpointTxid : Nat) :
    let memory : Memory :=
      ⟨image, checkpointTxid, chapters.flatMap Log.Chapter.records⟩
    recover disk log.directory segmentSize image checkpointTxid =
      (disk, .ok ⟨memory.tree, ⟨log.directory, segmentSize, [], memory.txid, [],
        chapters.map Log.Chapter.span, memory.txid⟩, true⟩) := by
  intro memory
  have ascending := archived.shelved.ascending
  have isRoot : Image.namespaceRoot ((image.map Image.root).getD Tree.root) =
      .ok memory.base :=
    memory.namespaceRoot_base directories
  have replayed : Recovery.replay disk log.directory
      (Recovery.replayFloor (image.map Image.txid) checkpointTxid) memory.base =
      _ :=
    archived.replay stands word memory rfl
  have reaches : max ((image.map Image.txid).getD 0)
      (Record.highest memory.floor memory.replayed) = memory.txid :=
    memory.max_highest (Log.Course.pairwise_flatMap_records ascending)
  have covered :
      max (Log.lastCovered (chapters.map Log.Chapter.span)) memory.txid =
      memory.txid := by
    rw [Memory.txid, ← Log.maxTxid?_flatMap_records ascending]
    exact Nat.max_eq_right (Nat.le_max_right _ _)
  simp only [recover, isRoot, replayed, archived.list_eq stands word,
    Log.openAt, Disk.makeDirectories_of_stands stands, Except.map,
    Log.advanceTo_ofSpans_eq, reaches, covered]

end Catalog
end NameService
