import Mathlib.Data.List.TakeWhile
import NameService.Log.Fetch
import NameService.Proofs.Log.Course

/-!
# Fetching a slice of the history

A fetch is served from the segment cached last, from a segment of the log or
from its buffers. Wherever it is served from, it answers with records that were
accepted under consecutive transaction ids right behind the one asked about, and
it is empty only if the next record is in none of them.
-/

namespace NameService

namespace Record

variable {first : Nat} {records : List Record}

theorem numbered_cons {record : Record} :
    Numbered first (record :: records) ↔
      record.txid = first ∧ Numbered (first + 1) records := by
  simp [Numbered, List.range'_succ]

/-- The front of consecutive records is consecutive. -/
theorem Numbered.take (numbered : Numbered first records) (count : Nat) :
    Numbered first (records.take count) := by
  rw [← List.take_append_drop count records] at numbered
  exact (numbered_append.mp numbered).1

/-- Consecutive records carry exactly the transaction ids in their range. -/
theorem Numbered.exists_iff (numbered : Numbered first records) (txid : Nat) :
    (∃ record ∈ records, record.txid = txid) ↔
      first ≤ txid ∧ txid < first + records.length := by
  rw [← List.mem_map, numbered, List.mem_range'_1]

/-- Among records of increasing transaction ids, consecutive ones are all that
carry an id in their range. -/
theorem Numbered.eq_filter
    (numbered : Numbered first records)
    {accepted : List Record}
    (increasing : accepted.Pairwise fun left right => left.txid < right.txid)
    (among : records ⊆ accepted) :
    records = accepted.filter fun record =>
      decide (first ≤ record.txid ∧ record.txid < first + records.length) := by
  have ordered : records.Pairwise fun left right => left.txid < right.txid := by
    refine List.pairwise_map.mp ?_
    rw [numbered]
    exact List.pairwise_lt_range'
  have distinct : ∀ {left right : Record}, left.txid < right.txid →
      left ≠ right := by
    rintro left right above rfl
    exact Nat.lt_irrefl _ above
  have once : (accepted.map txid).Nodup :=
    (List.pairwise_map.mpr increasing).imp Nat.ne_of_lt
  refine List.Perm.eq_of_pairwise (fun left right _ _ forth back => ?_) ordered
    (increasing.filter _) ?_
  · exact absurd forth back.asymm
  · refine (List.perm_ext_iff_of_nodup (ordered.imp distinct)
      ((increasing.filter _).imp distinct)).mpr fun record => ?_
    rw [List.mem_filter, decide_eq_true_iff]
    refine ⟨fun present => ⟨among present, numbered.bounds present⟩, ?_⟩
    rintro ⟨present, inRange⟩
    obtain ⟨other, inRecords, same⟩ :=
      (numbered.exists_iff record.txid).mpr inRange
    rwa [← List.inj_on_of_nodup_map once (among inRecords) present same]

end Record

namespace Fetcher

variable {first : Nat} {records : List Record}

/-! ## Batches -/

/-- Consecutive records are a run as a whole. -/
theorem run_of_numbered
    (numbered : Record.Numbered first records)
    (words : ∀ record ∈ records, record.txid ≤ Word.max) :
    run first records = records := by
  induction records generalizing first with
  | nil => rfl
  | cons record rest hypothesis =>
      obtain ⟨same, behind⟩ := Record.numbered_cons.mp numbered
      obtain ⟨-, restWords⟩ := List.forall_mem_cons.mp words
      rw [run, if_pos same]
      -- Behind the last record it makes no difference where the count goes on.
      cases rest with
      | nil => rfl
      | cons second rest =>
          have word := restWords second List.mem_cons_self
          rw [(Record.numbered_cons.mp behind).1] at word
          rw [Word.next_of_lt word, hypothesis behind restWords]

/-- The records from a transaction id on are consecutive, if all records are. -/
theorem numbered_dropWhile
    (numbered : Record.Numbered first records)
    (txid : Nat) :
    Record.Numbered txid
      (records.dropWhile fun record => record.txid != txid) := by
  induction records generalizing first with
  | nil => rfl
  | cons record rest hypothesis =>
      obtain ⟨same, behind⟩ := Record.numbered_cons.mp numbered
      by_cases found : record.txid = txid
      · rw [List.dropWhile_cons_of_neg (by simp [found]), ← found, same]
        exact numbered
      · rw [List.dropWhile_cons_of_pos (by simp [found])]
        exact hypothesis behind

/-- A batch is drawn from records: consecutive from a transaction id on, not
longer than a limit, and empty only if no record carries that id. -/
structure Draws
    (records : List Record)
    (txid limit : Nat)
    (batch : List Record) : Prop where
  numbered : Record.Numbered txid batch
  short : batch.length ≤ limit
  drawn : batch ⊆ records
  empty : batch = [] ↔ ¬ ∃ record ∈ records, record.txid = txid

/-- What is taken from consecutive records is drawn from them. -/
theorem draws_takeBatch
    (numbered : Record.Numbered first records)
    (words : ∀ record ∈ records, record.txid ≤ Word.max)
    (txid : Nat)
    {limit : Nat}
    (room : 0 < limit) :
    Draws records txid limit (takeBatch records txid limit) := by
  have behind := numbered_dropWhile numbered txid
  have among :=
    (List.dropWhile_sublist (l := records) fun record =>
      record.txid != txid).subset
  rw [takeBatch,
    run_of_numbered behind fun record present => words record (among present)]
  refine ⟨behind.take limit, List.length_take_le _ _, ?_, ?_⟩
  · exact List.Subset.trans (List.take_subset _ _) among
  · rw [List.take_eq_nil_iff, or_iff_right (Nat.pos_iff_ne_zero.mp room),
      List.dropWhile_eq_nil_iff]
    simp

/-! ## Segments -/

/-- A record is at hand for a fetch: in a listed segment, in a buffer, or in the
segment that is cached. -/
def AtHand (fetcher : Fetcher) (moment : Log.Moment) (record : Record) : Prop :=
  (∃ span ∈ moment.log.spans, ∃ records,
      moment.log.readSegment moment.disk span = .ok records ∧
        record ∈ records) ∨
    record ∈ moment.log.buffered ∨
    ∃ cached ∈ fetcher.cache, record ∈ cached.2

/-- A fetcher has cached nothing, or a chapter of known records. -/
def Caches (fetcher : Fetcher) (known : List Record) : Prop :=
  ∀ cached ∈ fetcher.cache, ∃ chapter : Log.Chapter,
    cached = (chapter.span, chapter.records) ∧ chapter.records ⊆ known

theorem caches_new (batchSize : Nat) (known : List Record) :
    (new batchSize).Caches known :=
  fun _ isCached => by cases isCached

/-- What is cached stays known when more records are. -/
theorem Caches.mono
    {fetcher : Fetcher}
    {known more : List Record}
    (caches : fetcher.Caches known)
    (within : known ⊆ more) :
    fetcher.Caches more := by
  intro cached isCached
  obtain ⟨chapter, same, among⟩ := caches cached isCached
  exact ⟨chapter, same, List.Subset.trans among within⟩

end Fetcher

namespace Log

/-- A segment is read as the records of its chapter, if their transaction ids
are words. -/
theorem Shelved.readSegment
    {log : Log}
    {disk : Disk}
    {chapters : List Chapter}
    (shelved : Shelved log disk chapters)
    {chapter : Chapter}
    (present : chapter ∈ chapters)
    (words : ∀ record ∈ chapter.records, record.txid ≤ Word.max) :
    log.readSegment disk chapter.span = .ok chapter.records :=
  Segment.read_of_item? (shelved.stored chapter present) words

end Log

namespace Fetcher

variable {log : Log} {disk : Disk} {chapters : List Log.Chapter}
  {fetcher : Fetcher} {known : List Record}

/-- A look-up in the cache does not touch the log. -/
theorem segmentRecords_of_cached
    {cached : Span × List Record}
    (isCached : cached ∈ fetcher.cache)
    {txid : Nat}
    (covers : cached.1.covers txid = true)
    (moment : Log.Moment) :
    fetcher.segmentRecords moment txid = (fetcher, .ok (some cached.2)) := by
  have same : fetcher.cache = some cached := isCached
  rw [segmentRecords, same]
  simp only [covers, if_true]

/-- A look-up of a segment that is not cached goes through the spans of the
log. -/
theorem segmentRecords_of_uncached
    {txid : Nat}
    (uncached : ∀ cached ∈ fetcher.cache, cached.1.covers txid = false)
    (moment : Log.Moment) :
    fetcher.segmentRecords moment txid =
      match moment.log.spans.find? fun span => span.covers txid with
      | none => (fetcher, .ok none)
      | some span =>
          match moment.log.readSegment moment.disk span with
          | .error error => (fetcher, .error error)
          | .ok records =>
              ({ fetcher with cache := some (span, records) },
                .ok (some records)) := by
  rw [segmentRecords]
  cases isCached : fetcher.cache with
  | none => rfl
  | some cached =>
      have missed : ¬ cached.1.covers txid = true :=
        Bool.not_eq_true _ ▸ uncached cached isCached
      exact if_neg missed

/-- A look-up of the segment that covers a transaction id gives the records of a
chapter, which is cached from then on, or it finds neither the cached segment
nor a listed one to cover the id. -/
theorem segmentRecords_cases
    (shelved : Log.Shelved log disk chapters)
    (whole : chapters.flatMap Log.Chapter.records ++ log.buffered ⊆ known)
    (words : ∀ record ∈ known, record.txid ≤ Word.max)
    (caches : fetcher.Caches known)
    (txid : Nat) :
    (∃ chapter : Log.Chapter,
        fetcher.segmentRecords ⟨log, disk⟩ txid =
          ({ fetcher with cache := some (chapter.span, chapter.records) },
            .ok (some chapter.records)) ∧
        chapter.span.covers txid = true ∧ chapter.records ⊆ known ∧
        ∀ record ∈ chapter.records, fetcher.AtHand ⟨log, disk⟩ record) ∨
      fetcher.segmentRecords ⟨log, disk⟩ txid = (fetcher, .ok none) ∧
        (∀ cached ∈ fetcher.cache, cached.1.covers txid = false) ∧
        ∀ chapter ∈ chapters, chapter.span.covers txid = false := by
  by_cases isCovered : ∃ cached ∈ fetcher.cache, cached.1.covers txid = true
  · obtain ⟨cached, isCached, covers⟩ := isCovered
    obtain ⟨chapter, rfl, among⟩ := caches cached isCached
    have same : fetcher.cache = some (chapter.span, chapter.records) := isCached
    refine .inl ⟨chapter, ?_, covers, among, fun record present =>
      .inr (.inr ⟨_, isCached, present⟩)⟩
    rw [segmentRecords_of_cached isCached covers, ← same]
  · have uncached : ∀ cached ∈ fetcher.cache, cached.1.covers txid = false := by
      simpa using isCovered
    rw [segmentRecords_of_uncached uncached, shelved.listed]
    cases found : (chapters.map Log.Chapter.span).find? fun span =>
      span.covers txid with
    | none =>
        refine .inr ⟨rfl, uncached, fun chapter present => ?_⟩
        simpa using
          List.find?_eq_none.mp found chapter.span (List.mem_map_of_mem present)
    | some span =>
        obtain ⟨chapter, present, rfl⟩ :=
          List.mem_map.mp (List.mem_of_find?_eq_some found)
        have covers : chapter.span.covers txid = true := by
          simpa using List.find?_some found
        have among : chapter.records ⊆ known := fun record inChapter =>
          whole (List.mem_append_left _
            (List.mem_flatMap.mpr ⟨chapter, present, inChapter⟩))
        have isRead := shelved.readSegment present fun record inChapter =>
          words record (among inChapter)
        refine .inl
          ⟨chapter, ?_, covers, among, fun record inChapter => .inl ?_⟩
        · simp only [isRead]
        · exact ⟨chapter.span, shelved.listed ▸ List.mem_map_of_mem present, _,
            isRead, inChapter⟩

/-! ## Answers -/

/-- A record that is at hand for a fetch is buffered, or it is one of a chapter
that is listed or cached. -/
theorem AtHand.cases
    (shelved : Log.Shelved log disk chapters)
    (whole : chapters.flatMap Log.Chapter.records ++ log.buffered ⊆ known)
    (words : ∀ record ∈ known, record.txid ≤ Word.max)
    (caches : fetcher.Caches known)
    {record : Record}
    (atHand : fetcher.AtHand ⟨log, disk⟩ record) :
    record ∈ log.buffered ∨
      ∃ chapter : Log.Chapter, record ∈ chapter.records ∧ record ∈ known ∧
        (chapter ∈ chapters ∨
          (chapter.span, chapter.records) ∈ fetcher.cache) := by
  rcases atHand with ⟨span, isListed, records, isRead, present⟩ | inBuffers |
    ⟨cached, isCached, present⟩
  · simp only [shelved.listed] at isListed
    obtain ⟨chapter, isChapter, rfl⟩ := List.mem_map.mp isListed
    have among : chapter.records ⊆ known := fun other inChapter =>
      whole (List.mem_append_left _
        (List.mem_flatMap.mpr ⟨chapter, isChapter, inChapter⟩))
    have same :=
      shelved.readSegment isChapter fun other inChapter =>
        words other (among inChapter)
    obtain rfl : chapter.records = records :=
      Except.ok.inj (same.symm.trans isRead)
    exact .inr ⟨chapter, present, among present, .inl isChapter⟩
  · exact .inl inBuffers
  · obtain ⟨chapter, rfl, among⟩ := caches cached isCached
    exact .inr ⟨chapter, present, among present, .inr isCached⟩

/-- Chapters and buffers of a log at one moment, all of them known. -/
structure Shows
    (moment : Log.Moment)
    (chapters : List Log.Chapter)
    (known : List Record) : Prop where
  shelved : Log.Shelved moment.log moment.disk chapters
  whole : chapters.flatMap Log.Chapter.records ++ moment.log.buffered ⊆ known

/-- No look at a log came upon a transaction id: not the first one into the
cache and the listed segments, not the one into the buffers, and not the second
one at the segments, unless the id was not flushed when that was to be
decided. -/
structure Misses
    (fetcher : Fetcher)
    (listed : List Log.Chapter)
    (buffers counted : Log.Moment)
    (relisted : List Log.Chapter)
    (txid : Nat) : Prop where
  uncached : ∀ cached ∈ fetcher.cache, cached.1.covers txid = false
  unlisted : ∀ chapter ∈ listed, chapter.span.covers txid = false
  unbuffered : ¬ ∃ record ∈ buffers.log.buffered, record.txid = txid
  unrelisted : txid ≤ counted.log.flushedTxid →
    ∀ chapter ∈ relisted, chapter.span.covers txid = false

/-- A batch serves a fetch from a transaction id on: it holds known records,
consecutive from that id on and not more than the fetcher gives at once. -/
structure Serves
    (fetcher : Fetcher)
    (first buffers second : Log.Moment)
    (known : List Record)
    (txid : Nat)
    (batch : List Record) : Prop where
  numbered : Record.Numbered txid batch
  short : batch.length ≤ fetcher.batchSize
  known : batch ⊆ known
  /-- Every record was at hand at one of the looks. -/
  atHand : ∀ record ∈ batch, fetcher.AtHand first record ∨
    record ∈ buffers.log.buffered ∨
    fetcher.AtHand second record

/-- What is taken from a chapter that covers a transaction id is not empty. -/
theorem takeBatch_ne_nil
    {chapter : Log.Chapter}
    (words : ∀ record ∈ chapter.records, record.txid ≤ Word.max)
    {txid limit : Nat}
    (covers : chapter.span.covers txid = true)
    (room : 0 < limit) :
    takeBatch chapter.records txid limit ≠ [] := by
  intro nothing
  apply (draws_takeBatch chapter.numbered words txid room).empty.mp nothing
  simp only [Span.covers, Bool.and_eq_true, decide_eq_true_eq] at covers
  refine (chapter.numbered.exists_iff txid).mpr ⟨covers.1, ?_⟩
  have complete := chapter.complete
  omega

/-- A chapter that is read last is cached. -/
theorem caches_chapter
    (fetcher : Fetcher)
    {chapter : Log.Chapter}
    (among : chapter.records ⊆ known) :
    ({ fetcher with cache := some (chapter.span, chapter.records) }).Caches
      known := by
  intro cached isCached
  obtain rfl := Option.some.inj isCached
  exact ⟨chapter, rfl, among⟩

/-- A fetch succeeds, whatever happens to the log between its looks, and what it
gives is empty only if they all missed. It goes on caching known records. -/
theorem serves_fetchAcross
    {first buffers counted second : Log.Moment}
    {listed between relisted : List Log.Chapter}
    (seen : Shows first listed known)
    (seenBuffers : Shows buffers between known)
    (seenAgain : Shows second relisted known)
    (words : ∀ record ∈ known, record.txid ≤ Word.max)
    (caches : fetcher.Caches known)
    (room : 0 < fetcher.batchSize)
    (txid : Nat) :
    ∃ after batch,
      fetcher.fetchAcross first buffers counted second txid =
        (after, .ok batch) ∧
      fetcher.Serves first buffers second known txid batch ∧
      (batch = [] → fetcher.Misses listed buffers counted relisted txid) ∧
      after.Caches known ∧ after.batchSize = fetcher.batchSize := by
  rcases segmentRecords_cases seen.shelved seen.whole words caches txid with
    ⟨chapter, found, covers, among, atHand⟩ | ⟨notFound, uncached, unlisted⟩
  · have chapterWords := fun record present => words record (among present)
    have draws := draws_takeBatch chapter.numbered chapterWords txid room
    have nonempty := takeBatch_ne_nil chapterWords covers room
    refine ⟨_, takeBatch chapter.records txid fetcher.batchSize, ?_,
      ⟨draws.numbered, draws.short, List.Subset.trans draws.drawn among, ?_⟩,
      fun nothing => absurd nothing nonempty, caches_chapter fetcher among, rfl⟩
    · simp [fetchAcross, found, fetchAgain, nonempty]
    · intro record present
      exact .inl (atHand record (draws.drawn present))
  · have bufferWords := fun record present =>
      words record (seenBuffers.whole (List.mem_append_right _ present))
    have draws :=
      draws_takeBatch seenBuffers.shelved.numbered bufferWords txid room
    have fromBuffers : fetcher.Serves first buffers second known txid
        (takeBatch buffers.log.buffered txid fetcher.batchSize) := by
      refine ⟨draws.numbered, draws.short, ?_,
        fun record present => .inr (.inl ?_)⟩
      · intro record present
        exact seenBuffers.whole (List.mem_append_right _ (draws.drawn present))
      · exact draws.drawn present
    by_cases again :
        takeBatch buffers.log.buffered txid fetcher.batchSize = [] ∧
          txid ≤ counted.log.flushedTxid
    · obtain ⟨nothing, flushed⟩ := again
      rcases segmentRecords_cases seenAgain.shelved seenAgain.whole words caches
        txid with
        ⟨chapter, found, covers, among, atHand⟩ | ⟨notFoundAgain, -, unrelisted⟩
      · have chapterWords := fun record present => words record (among present)
        have draws := draws_takeBatch chapter.numbered chapterWords txid room
        have nonempty := takeBatch_ne_nil chapterWords covers room
        refine ⟨_, takeBatch chapter.records txid fetcher.batchSize, ?_,
          ⟨draws.numbered, draws.short, List.Subset.trans draws.drawn among,
            ?_⟩,
          fun nothing => absurd nothing nonempty, caches_chapter fetcher among,
          rfl⟩
        · simp [fetchAcross, notFound, fetchAgain, nothing, flushed, found]
        · intro record present
          exact .inr (.inr (atHand record (draws.drawn present)))
      · refine ⟨fetcher, _, ?_, fromBuffers, fun _ => ?_, caches, rfl⟩
        · simp [fetchAcross, notFound, fetchAgain, nothing, flushed,
            notFoundAgain]
        · exact ⟨uncached, unlisted, draws.empty.mp nothing,
            fun _ => unrelisted⟩
    · refine ⟨fetcher, _, ?_, fromBuffers, fun nothing => ?_, caches, rfl⟩
      · simp only [fetchAcross, notFound, fetchAgain, Option.getD_none]
        rw [if_neg]
        simpa using again
      · refine ⟨uncached, unlisted, draws.empty.mp nothing, fun flushed => ?_⟩
        exact absurd ⟨nothing, flushed⟩ again

/-- What was at hand at the first look of a fetch that missed was buffered. -/
theorem Misses.buffered
    {first buffers counted : Log.Moment}
    {listed relisted : List Log.Chapter}
    {record : Record}
    (misses : fetcher.Misses listed buffers counted relisted record.txid)
    (seen : Shows first listed known)
    (words : ∀ record ∈ known, record.txid ≤ Word.max)
    (caches : fetcher.Caches known)
    (atHand : fetcher.AtHand first record) :
    record ∈ first.log.buffered := by
  rcases atHand.cases seen.shelved seen.whole words caches with
    inBuffers | ⟨chapter, present, -, source⟩
  · exact inBuffers
  · have covers : chapter.span.covers record.txid = true := by
      simpa [Span.covers] using Log.Course.covers_of_mem present
    rcases source with isListed | isCached
    · rw [misses.unlisted chapter isListed] at covers
      cases covers
    · rw [misses.uncached _ isCached] at covers
      cases covers

/-- A batch answers a fetch behind a transaction id: it holds known records,
consecutive from the next id on and not more than the fetcher gives at once, and
it is empty only if no record of the next id is at hand. -/
structure Answers
    (fetcher : Fetcher)
    (moment : Log.Moment)
    (known : List Record)
    (after : Nat)
    (batch : List Record) : Prop where
  numbered : Record.Numbered (after + 1) batch
  short : batch.length ≤ fetcher.batchSize
  known : batch ⊆ known
  empty : batch = [] ↔
    ¬ ∃ record, fetcher.AtHand moment record ∧ record.txid = after + 1

/-- A fetch succeeds with an answer, and goes on caching known records. -/
def Answered
    (fetcher : Fetcher)
    (moment : Log.Moment)
    (known : List Record)
    (after : Nat)
    (outcome : Fetcher × Except LogError (List Record)) : Prop :=
  ∃ batch, outcome.2 = .ok batch ∧ fetcher.Answers moment known after batch ∧
    outcome.1.Caches known ∧ outcome.1.batchSize = fetcher.batchSize

/-- A fetch from a log whose records are known answers with known records. -/
theorem answered_fetch
    (shelved : Log.Shelved log disk chapters)
    (whole : chapters.flatMap Log.Chapter.records ++ log.buffered ⊆ known)
    (words : ∀ record ∈ known, record.txid ≤ Word.max)
    (caches : fetcher.Caches known)
    (room : 0 < fetcher.batchSize)
    (after : Nat) :
    fetcher.Answered ⟨log, disk⟩ known after
      (fetcher.fetch disk log after) := by
  have seen : Shows ⟨log, disk⟩ chapters known := ⟨shelved, whole⟩
  rw [fetch]
  split
  · rename_i beyond
    refine ⟨[], rfl,
      ⟨Record.numbered_nil _, Nat.zero_le _, List.nil_subset _, ?_⟩, caches,
      rfl⟩
    refine iff_of_true rfl ?_
    rintro ⟨record, atHand, carries⟩
    have isKnown : record ∈ known := by
      rcases atHand.cases shelved whole words caches with
        inBuffers | ⟨-, -, isKnown, -⟩
      · exact whole (List.mem_append_right _ inBuffers)
      · exact isKnown
    have word := words record isKnown
    omega
  · obtain ⟨server, batch, served, serves, missed, stillCaches, sameSize⟩ :=
      serves_fetchAcross seen seen seen words caches room (after + 1)
    simp only
    rw [served]
    refine ⟨batch, rfl, ⟨serves.numbered, serves.short, serves.known, ?_⟩,
      stillCaches, sameSize⟩
    constructor
    · rintro nothing ⟨record, atHand, carries⟩
      have misses := missed nothing
      have inBuffers := (carries ▸ misses).buffered seen words caches atHand
      exact misses.unbuffered ⟨record, inBuffers, carries⟩
    · intro missing
      by_contra nonempty
      obtain ⟨record, present, carries⟩ :=
        (serves.numbered.exists_iff (after + 1)).mpr
          ⟨Nat.le_refl _,
            Nat.lt_add_of_pos_right (List.length_pos_iff.mpr nonempty)⟩
      refine missing ⟨record, ?_, carries⟩
      rcases serves.atHand record present with atHand | inBuffers | atHand
      · exact atHand
      · exact .inr (.inl inBuffers)
      · exact atHand

end Fetcher

/-! ## Fetches in between -/

namespace Log.Course

variable {course : Course} {gone kept : List Chapter}

/-- No record accepted carries an id above the last one of the log. -/
theorem Tells.txid_le
    (tells : course.Tells gone kept)
    {record : Record}
    (present : record ∈ course.accepted) :
    record.txid ≤ course.log.lastTxid := by
  have complete := tells.shelved.complete
  rw [tells.accepted] at present
  rcases List.mem_append.mp present with inChapters | inBuffers
  · obtain ⟨chapter, isChapter, inChapter⟩ := List.mem_flatMap.mp inChapters
    have limited :=
      tells.ascending.limited chapter.span (List.mem_map_of_mem isChapter)
    have covered := covers_of_mem inChapter
    omega
  · have bounds := tells.shelved.numbered.bounds inBuffers
    omega

/-- The transaction ids of the records accepted are words. -/
theorem Tells.words (tells : course.Tells gone kept) :
    ∀ record ∈ course.accepted, record.txid ≤ Word.max :=
  fun _ present => Nat.le_trans (tells.txid_le present) tells.word

end Log.Course

namespace Fetcher

/-- A log in use and a fetcher that reads from it. -/
structure Reading where
  course : Log.Course
  fetcher : Fetcher

namespace Reading

/-- What happens between a log and its reader. -/
inductive Event
  /-- An operation of the log. -/
  | log (event : Log.Event)
  /-- A fetch behind a transaction id. -/
  | fetch (after : Nat)

/-- What the fetcher answers behind a transaction id, and what it is then. -/
def fetch (reading : Reading) (after : Nat) :
    Fetcher × Except LogError (List Record) :=
  reading.fetcher.fetch reading.course.disk reading.course.log after

/-- What a reading is after one more event. -/
def step (reading : Reading) : Event → Reading
  | .log event => { reading with course := reading.course.step event }
  | .fetch after => { reading with fetcher := (reading.fetch after).1 }

/-- What a reading is after a sequence of events. -/
def run (reading : Reading) (events : List Event) : Reading :=
  events.foldl step reading

/-- An event that counts on from no transaction id behind which there is none:
no append is behind the largest word, and no fetch comes upon it. -/
def Event.Fits (reading : Reading) : Event → Prop
  | .log event => event.Fits reading.course.log
  | .fetch _ => reading.course.log.lastTxid < Word.max

instance (reading : Reading) : DecidablePred (Event.Fits reading)
  | .log event => inferInstanceAs (Decidable (event.Fits reading.course.log))
  | .fetch _ =>
      inferInstanceAs (Decidable (reading.course.log.lastTxid < Word.max))

/-- Every event of a sequence fits the reading that it finds. -/
def Roomy (reading : Reading) (events : List Event) : Prop :=
  Along step Event.Fits reading events

instance (reading : Reading) : DecidablePred reading.Roomy := fun events =>
  inferInstanceAs (Decidable (Along step Event.Fits reading events))

/-- A sequence of events is roomy if its front is, and the rest behind that. -/
theorem roomy_append {reading : Reading} {front back : List Event} :
    reading.Roomy (front ++ back) ↔
      reading.Roomy front ∧ (reading.run front).Roomy back :=
  along_append

/-- A fresh log on a disk and a fetcher that has not fetched. -/
def start (disk : Disk) (directory : Location) (segmentSize batchSize : Nat) :
    Reading :=
  ⟨.start disk (.ofSpans directory segmentSize []), .new batchSize⟩

/-- The log tells what was accepted, and the fetcher caches only what was. -/
structure Sound (reading : Reading) (batchSize : Nat) : Prop where
  tells : ∃ gone kept, reading.course.Tells gone kept
  caches : reading.fetcher.Caches reading.course.accepted
  size : reading.fetcher.batchSize = max batchSize 1

variable {reading : Reading} {batchSize : Nat}

theorem sound_start
    (disk : Disk)
    (directory : Location)
    (segmentSize batchSize : Nat) :
    (start disk directory segmentSize batchSize).Sound batchSize :=
  ⟨⟨[], [], Log.Course.tells_start directory segmentSize disk⟩, caches_new _ _,
    rfl⟩

/-- A sound reading answers every fetch from what was accepted. -/
theorem Sound.answered (sound : reading.Sound batchSize) (after : Nat) :
    reading.fetcher.Answered ⟨reading.course.log, reading.course.disk⟩
      reading.course.accepted after (reading.fetch after) := by
  obtain ⟨gone, kept, tells⟩ := sound.tells
  have room : 0 < reading.fetcher.batchSize := by
    have size := sound.size
    omega
  have whole : kept.flatMap Log.Chapter.records ++ reading.course.log.buffered ⊆
      reading.course.accepted := by
    rw [tells.accepted, List.flatMap_append, List.append_assoc]
    exact List.subset_append_right _ _
  exact answered_fetch tells.shelved whole tells.words sound.caches room after

/-- Every event that fits keeps a reading sound. -/
theorem Sound.step
    (sound : reading.Sound batchSize)
    {event : Event}
    (fits : event.Fits reading) :
    (reading.step event).Sound batchSize := by
  cases event with
  | log event =>
      obtain ⟨gone, kept, tells⟩ := sound.tells
      obtain ⟨more, grown⟩ := reading.course.accepted_step event
      refine ⟨tells.step fits, sound.caches.mono ?_, sound.size⟩
      simp only [Reading.step, grown]
      exact List.subset_append_left _ _
  | fetch after =>
      obtain ⟨batch, -, -, caches, sameSize⟩ := sound.answered after
      exact ⟨sound.tells, caches, sameSize.trans sound.size⟩

/-- Every sequence of events that fit keeps a reading sound. -/
theorem Sound.run
    (sound : reading.Sound batchSize)
    {events : List Event}
    (roomy : reading.Roomy events) :
    (reading.run events).Sound batchSize :=
  Along.foldl_induction roomy (fun reading => reading.Sound batchSize)
    (fun sound fits => sound.step fits) sound

/-! ## Slices -/

end Reading
end Fetcher
end NameService
