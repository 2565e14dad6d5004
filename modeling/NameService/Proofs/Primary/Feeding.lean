import NameService.Proofs.Primary.Service

/-!
# Feeding Backups that are behind

A purge may give up segments that one Backup has covered by a checkpoint and
another one has yet to fetch. A running Primary answers every fetch behind what
it has applied, and the answer is empty exactly if the next record was given up.
Then it stays empty.
-/

namespace NameService

/-! ## What a fetch caches -/

namespace Fetcher

end Fetcher

namespace Primary
namespace Service

variable {settings : Settings} {accepts : Record → Prop} {service : Service}
  {txid : Nat}

/-! ## Giving up -/

/-- A transaction id is given up: it is flushed, and neither a listed segment
nor the cached one covers it. -/
structure GivenUp (service : Service) (txid : Nat) : Prop where
  flushed : txid ≤ service.primary.catalog.log.flushedTxid
  unlisted : ∀ span ∈ service.primary.catalog.log.spans,
    span.covers txid = false
  uncached : ∀ cached ∈ service.primary.fetcher.cache,
    cached.1.covers txid = false

/-- A record is at hand for a fetch unless it was given up. -/
theorem Sound.atHand_iff
    (sound : service.Sound settings accepts)
    (positive : 0 < txid)
    (applied : txid ≤ service.primary.catalog.appliedTxid) :
    (∃ record,
      service.primary.fetcher.AtHand ⟨service.primary.catalog.log, service.disk⟩
        record ∧
      record.txid = txid) ↔ ¬ service.GivenUp txid := by
  obtain ⟨known, supplied, -⟩ := sound.supplied
  obtain ⟨chapters, shelved, whole⟩ := supplied.shelved
  have complete := shelved.complete
  rw [Catalog.appliedTxid] at applied
  -- A chapter has a record of every transaction id that its span covers.
  have holds : ∀ chapter : Log.Chapter, chapter.span.covers txid = true →
      ∃ record ∈ chapter.records, record.txid = txid := by
    intro chapter covers
    have within : chapter.span.first ≤ txid ∧ txid ≤ chapter.span.last := by
      simpa [Span.covers] using covers
    have ends := chapter.complete
    exact (chapter.numbered.exists_iff txid).mpr ⟨within.1, by omega⟩
  constructor
  · rintro ⟨record, atHand, rfl⟩ givenUp
    rcases atHand.cases shelved whole supplied.words supplied.caches with
      inBuffers | ⟨chapter, present, -, source⟩
    · have bounds := shelved.numbered.bounds inBuffers
      have flushed := givenUp.flushed
      omega
    · have covers : chapter.span.covers record.txid = true := by
        simpa [Span.covers] using Log.Course.covers_of_mem present
      rcases source with isListed | isCached
      · rw [givenUp.unlisted _
          (shelved.listed ▸ List.mem_map_of_mem isListed)] at covers
        cases covers
      · rw [givenUp.uncached _ isCached] at covers
        cases covers
  · intro kept
    by_contra none
    refine kept ⟨?_, fun span present => ?_, fun cached isCached => ?_⟩
    · by_contra unflushed
      obtain ⟨record, inBuffers, carries⟩ :=
        (shelved.numbered.exists_iff txid).mpr ⟨by omega, by omega⟩
      exact none ⟨record, .inr (.inl inBuffers), carries⟩
    · rw [← Bool.not_eq_true]
      intro covers
      rw [shelved.listed] at present
      obtain ⟨chapter, isChapter, rfl⟩ := List.mem_map.mp present
      obtain ⟨record, inChapter, carries⟩ := holds chapter covers
      have isRead := shelved.readSegment isChapter fun other inChapter =>
        supplied.words other (whole (List.mem_append_left _
          (List.mem_flatMap.mpr ⟨chapter, isChapter, inChapter⟩)))
      exact none
        ⟨record,
          .inl ⟨chapter.span, shelved.listed ▸ List.mem_map_of_mem isChapter, _,
            isRead, inChapter⟩, carries⟩
    · rw [← Bool.not_eq_true]
      intro covers
      obtain ⟨chapter, rfl, -⟩ := supplied.caches cached isCached
      obtain ⟨record, inChapter, carries⟩ := holds chapter covers
      exact none ⟨record, .inr (.inr ⟨_, isCached, inChapter⟩), carries⟩

/-- A running Primary answers a fetch with consecutive records that are at hand,
and with none exactly if the next one is not. -/
theorem Sound.fetchEdits
    (sound : service.Sound settings accepts)
    (running : service.primary.catalog.running = true)
    (after : Nat) :
    ∃ batch, (service.primary.fetchEdits service.disk after).2 = .ok batch ∧
      Record.Numbered (after + 1) batch ∧
      (∀ record ∈ batch, record.txid ≤ service.primary.catalog.appliedTxid ∧
        service.primary.fetcher.AtHand
          ⟨service.primary.catalog.log, service.disk⟩ record) ∧
      (batch = [] ↔ ¬ ∃ record,
        service.primary.fetcher.AtHand
          ⟨service.primary.catalog.log, service.disk⟩ record ∧
          record.txid = after + 1) := by
  obtain ⟨known, supplied, atHand⟩ := sound.supplied
  obtain ⟨-, batch, answer, answers⟩ := supplied.fetch after
  refine ⟨batch, ?_, answers.numbered, fun record present => ?_, answers.empty⟩
  · rw [Primary.fetchEdits, if_pos running]
    simp only [answer]
    rfl
  · obtain ⟨reached, -, isAtHand⟩ := atHand record (answers.known present)
    exact ⟨reached, isAtHand⟩

/-! ## What is given up stays so -/

/-- The same segments listed and cached, or fewer. -/
theorem GivenUp.of_fewer
    (givenUp : service.GivenUp txid)
    {after : Service}
    (further : service.primary.catalog.log.flushedTxid ≤
      after.primary.catalog.log.flushedTxid)
    (spans : ∀ span ∈ after.primary.catalog.log.spans,
      span ∈ service.primary.catalog.log.spans ∨
        service.primary.catalog.log.flushedTxid < span.first)
    (cache : ∀ cached ∈ after.primary.fetcher.cache,
      cached ∈ service.primary.fetcher.cache ∨
      cached.1 ∈ service.primary.catalog.log.spans) :
    after.GivenUp txid := by
  refine ⟨Nat.le_trans givenUp.flushed further, fun span present => ?_,
    fun cached isCached => ?_⟩
  · rcases spans span present with isOld | isNew
    · exact givenUp.unlisted span isOld
    · have flushed := givenUp.flushed
      simp only [Span.covers, Bool.and_eq_false_iff, decide_eq_false_iff_not]
      omega
  · rcases cache cached isCached with isOld | isListed
    · exact givenUp.uncached cached isOld
    · exact givenUp.unlisted cached.1 isListed

/-- A report lists no segments. -/
theorem GivenUp.report
    (givenUp : service.GivenUp txid)
    (reported : Nat)
    (failures : Nat → Option Disk.Failure) :
    (service.report reported failures).GivenUp txid := by
  unfold Service.report
  simp only
  rcases service.primary.updateCheckpoint_cases (service.disk.failing failures)
    reported with
    ⟨-, state⟩ | ⟨state, -⟩ | ⟨-, -, saved, -, ⟨-, state⟩ | ⟨-, state⟩⟩
  · rw [state]
    exact ⟨givenUp.flushed, givenUp.unlisted, givenUp.uncached⟩
  · rw [state]
    exact ⟨givenUp.flushed, givenUp.unlisted, givenUp.uncached⟩
  · rw [state]
    exact ⟨givenUp.flushed, givenUp.unlisted, givenUp.uncached⟩
  · obtain ⟨dropped, split, -, -⟩ := Log.purgeSpans_cases saved
      service.primary.catalog.log.directory reported
      service.primary.catalog.log.spans
    rw [state]
    refine givenUp.of_fewer (Nat.le_refl _) (fun span present => .inl ?_)
      fun cached isCached => .inl isCached
    rw [split]
    exact List.mem_append_right _ present

end Service

end Primary
end NameService
