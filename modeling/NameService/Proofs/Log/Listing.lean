import NameService.Proofs.Disk.Directories
import NameService.Proofs.Log.Chapters

/-!
# The directory of a log

The segment files of a directory are those of the spans of its log. A flush adds
one, a purge on an honest disk removes those that it drops, and scratch files do
not count.
-/

namespace NameService
namespace Segment

/-- The name of a segment file in a directory, if a location is one. -/
def nameIn? (directory place : Location) : Option String :=
  if place.dropLast = directory then
    place.getLast?.filter fun name => (Span.ofFileName? name).isSome
  else none

/-- The names of the segment files in a directory. -/
def namesIn (disk : Disk) (directory : Location) : List String :=
  disk.items.filterMap fun entry => nameIn? directory entry.1

theorem nameIn?_append_singleton (directory : Location) (name : String) :
    nameIn? directory (directory ++ [name]) =
      if (Span.ofFileName? name).isSome then some name else none := by
  simp [nameIn?, Option.filter]

theorem nameIn?_location
    (directory : Location)
    {span : Span}
    (sound : span.Sound) :
    nameIn? directory (location directory span) = some span.fileName := by
  rw [location, nameIn?_append_singleton, Span.ofFileName?_fileName sound]
  rfl

/-- A segment file stands where its name says. -/
theorem eq_of_nameIn?
    {directory place : Location}
    {name : String}
    (named : nameIn? directory place = some name) :
    place = directory ++ [name] := by
  unfold nameIn? at named
  split at named
  · rename_i inDirectory
    have isLast := Option.eq_some_of_filter_eq_some named
    rw [← inDirectory]
    exact (List.dropLast_append_getLast? name isLast).symm
  · cases named

/-- The spans that the names of a directory tell are those of its segment
files. -/
theorem filterMap_names
    (entries : List (Location × Disk.Item))
    (directory : Location) :
    (entries.filterMap fun entry =>
      if entry.1.dropLast = directory then entry.1.getLast? else none).filterMap
        Span.ofFileName? =
      (entries.filterMap fun entry => nameIn? directory entry.1).filterMap
        Span.ofFileName? := by
  rw [List.filterMap_filterMap, List.filterMap_filterMap]
  refine List.filterMap_congr fun entry _ => ?_
  unfold nameIn?
  split
  · cases entry.1.getLast? with
    | none => rfl
    | some name =>
        cases told : Span.ofFileName? name with
        | none => simp [Option.filter, told]
        | some span => simp [Option.filter, told]
  · rfl

/-! ## Names after a change -/

/-- Entries that a filter drops name no segment. -/
theorem filterMap_filter_of_hidden
    {directory place : Location}
    (hidden : nameIn? directory place = none)
    (entries : List (Location × Disk.Item)) :
    (entries.filter fun entry => entry.1 != place).filterMap
        (fun entry => nameIn? directory entry.1) =
      entries.filterMap fun entry => nameIn? directory entry.1 := by
  rw [List.filterMap_filter]
  refine List.filterMap_congr fun entry _ => ?_
  split
  · rfl
  · rename_i dropped
    rw [show entry.1 = place by simpa using dropped, hidden]

/-- Dropping the entries of a segment drops its name. -/
theorem filterMap_filter_of_named
    {directory place : Location}
    {name : String}
    (named : nameIn? directory place = some name)
    (entries : List (Location × Disk.Item)) :
    (entries.filter fun entry => entry.1 != place).filterMap
        (fun entry => nameIn? directory entry.1) =
      (entries.filterMap fun entry => nameIn? directory entry.1).filter
        (· != name) := by
  rw [List.filterMap_filter, List.filter_filterMap]
  refine List.filterMap_congr fun entry _ => ?_
  cases other : nameIn? directory entry.1 with
  | none => simp
  | some found =>
      have isPlace : entry.1 = place ↔ found = name := by
        constructor
        · intro same
          rw [same, named] at other
          exact (Option.some.inj other).symm
        · intro same
          rw [eq_of_nameIn? other, eq_of_nameIn? named, same]
      by_cases same : found = name
      · simp [isPlace.mpr same, same, Option.filter]
      · simp [mt isPlace.mp same, same, Option.filter]

theorem namesIn_put_of_hidden
    {directory place : Location}
    (hidden : nameIn? directory place = none)
    (disk : Disk)
    (item : Disk.Item) :
    namesIn (disk.put place item) directory = namesIn disk directory := by
  have first : nameIn? directory (place, item).1 = none := hidden
  simp only [namesIn, Disk.put, List.filterMap_cons, first]
  exact filterMap_filter_of_hidden hidden disk.items

theorem namesIn_erase_of_hidden
    {directory place : Location}
    (hidden : nameIn? directory place = none)
    (disk : Disk) :
    namesIn (disk.erase place) directory = namesIn disk directory :=
  filterMap_filter_of_hidden hidden disk.items

theorem namesIn_put_of_named
    {directory place : Location}
    {name : String}
    (named : nameIn? directory place = some name)
    (disk : Disk)
    (item : Disk.Item) :
    namesIn (disk.put place item) directory =
      name :: (namesIn disk directory).filter (· != name) := by
  have first : nameIn? directory (place, item).1 = some name := named
  simp only [namesIn, Disk.put, List.filterMap_cons, first]
  exact congrArg (name :: ·) (filterMap_filter_of_named named disk.items)

theorem namesIn_erase_of_named
    {directory place : Location}
    {name : String}
    (named : nameIn? directory place = some name)
    (disk : Disk) :
    namesIn (disk.erase place) directory =
      (namesIn disk directory).filter (· != name) :=
  filterMap_filter_of_named named disk.items

/-- A step that touches no segment file leaves their names. -/
theorem namesIn_effect_of_hidden
    {disk after : Disk}
    {step : Disk.Step}
    (done : disk.effect step = .ok after)
    {directory : Location}
    (hidden : ∀ place ∈ step.touches, nameIn? directory place = none) :
    namesIn after directory = namesIn disk directory := by
  have makes := Disk.makes_of_effect done
  cases step with
  | makeDirectory location =>
      obtain ⟨-, rfl⟩ := makes
      exact namesIn_put_of_hidden (hidden location List.mem_cons_self) disk _
  | create location =>
      obtain ⟨-, rfl⟩ := makes
      exact namesIn_put_of_hidden (hidden location List.mem_cons_self) disk _
  | write location content =>
      obtain ⟨old, -, rfl⟩ := makes
      exact namesIn_put_of_hidden (hidden location List.mem_cons_self) disk _
  | sync location => rw [show after = disk from makes]
  | rename source target =>
      obtain ⟨content, -, -, rfl⟩ := makes
      rw [namesIn_put_of_hidden (hidden target (by simp [Disk.Step.touches])),
        namesIn_erase_of_hidden (hidden source List.mem_cons_self)]
  | remove location =>
      obtain ⟨content, -, rfl⟩ := makes
      exact namesIn_erase_of_hidden (hidden location List.mem_cons_self) disk

/-- Steps that touch no segment file leave their names, whether they succeed or
not. -/
theorem namesIn_performAll_of_hidden
    (disk : Disk)
    {steps : List Disk.Step}
    {directory : Location}
    (hidden : ∀ step ∈ steps, ∀ place ∈ step.touches,
      nameIn? directory place = none) :
    namesIn (disk.performAll steps).1 directory = namesIn disk directory :=
  Disk.performAll_induction
    (fun step => ∀ place ∈ step.touches, nameIn? directory place = none)
    (fun after => namesIn after directory = namesIn disk directory)
    (fun _ _ _ allowed => allowed) (fun _ _ kept => kept)
    (fun _ _ _ allowed done kept =>
      (namesIn_effect_of_hidden done allowed).trans kept) rfl hidden

/-! ## Segments that are listed -/

/-- What is listed are spans of words whose ends are in order. -/
theorem sound_of_mem_list
    {disk : Disk}
    {directory : Location}
    {spans : List Span}
    (listed : list disk directory = .ok spans)
    {span : Span}
    (present : span ∈ spans) :
    span.Sound := by
  rw [list] at listed
  split at listed
  · split at listed
    · obtain rfl := Except.ok.inj listed
      obtain ⟨name, -, told⟩ :=
        List.mem_filterMap.mp
          ((Sorting.sort_perm Span.below _).mem_iff.mp present)
      exact Span.sound_of_ofFileName? told
    · cases listed
  · obtain rfl := Except.ok.inj listed
    cases present

/-- The segments of a directory are listed in ascending order, whatever the
order of its names. -/
theorem list_of_perm
    {disk : Disk}
    {directory : Location}
    (isDirectory : disk.item? directory = some .directory)
    {names : List String}
    (named : disk.names directory = .ok names)
    {limit : Nat}
    {spans : List Span}
    (same : (names.filterMap Span.ofFileName?).Perm spans)
    (ascending : Span.Ascending limit spans) :
    Segment.list disk directory = .ok spans := by
  have present : disk.has directory = true := by simp [Disk.has, isDirectory]
  have starts : spans.Pairwise fun left right => left.first < right.first :=
    ascending.apart.imp_of_mem fun {left _} isLeft _ apart =>
      Nat.lt_of_le_of_lt (ascending.ordered left isLeft) apart
  rw [list, if_pos present, named]
  exact congrArg Except.ok (Span.sort_eq_of_perm same starts)

/-- The segment files of a directory are those of spans. -/
def Listed (disk : Disk) (directory : Location) (spans : List Span) : Prop :=
  (namesIn disk directory).Perm (spans.map Span.fileName)

/-- Spans in order below a word are sound. -/
theorem sound_of_ascending
    {limit : Nat}
    {spans : List Span}
    (ascending : Span.Ascending limit spans)
    (word : limit ≤ Word.max)
    {span : Span}
    (present : span ∈ spans) :
    span.Sound :=
  ⟨ascending.ordered span present,
    Nat.le_trans (ascending.limited span present) word⟩

/-- Spans whose files stand in a directory are the spans that it is listed
with. -/
theorem Listed.list_eq
    {disk : Disk}
    {directory : Location}
    {spans : List Span}
    (listed : Listed disk directory spans)
    (isDirectory : disk.item? directory = some .directory)
    {limit : Nat}
    (ascending : Span.Ascending limit spans)
    (word : limit ≤ Word.max) :
    list disk directory = .ok spans := by
  have told : (spans.map Span.fileName).filterMap Span.ofFileName? = spans := by
    rw [List.filterMap_map]
    exact (List.filterMap_congr fun span present =>
      Span.ofFileName?_fileName
        (sound_of_ascending ascending word present)).trans List.filterMap_some
  have same := listed.filterMap Span.ofFileName?
  rw [told, namesIn, ← filterMap_names] at same
  refine list_of_perm isDirectory ?_ same ascending
  simp only [Disk.names, isDirectory]

/-- A scratch file is no segment file. -/
theorem nameIn?_scratchLocation (directory : Location) (span : Span) :
    nameIn? directory (Log.scratchLocation directory span) = none := by
  rw [Log.scratchLocation, nameIn?_append_singleton, Span.ofFileName?_scratch]
  rfl

/-- Preparing a scratch file leaves the names of segments. -/
theorem namesIn_prepare
    {disk after : Disk}
    {directory : Location}
    {span : Span}
    {content : Bytes}
    {answer : Except FileError Unit}
    (outcome : disk.performAll
      (Disk.prepareSteps (Log.scratchLocation directory span) content) =
      (after, answer)) :
    namesIn after directory = namesIn disk directory := by
  have hidden : ∀ step ∈
      Disk.prepareSteps (Log.scratchLocation directory span) content,
      ∀ place ∈ step.touches, nameIn? directory place = none := by
    simp [Disk.prepareSteps, Disk.Step.touches, nameIn?_scratchLocation]
  have names := namesIn_performAll_of_hidden disk hidden
  rwa [outcome] at names

/-- A segment that is written is listed behind the others. -/
theorem Listed.write
    {disk after : Disk}
    {directory : Location}
    {spans : List Span}
    (listed : Listed disk directory spans)
    {span : Span}
    (sound : span.Sound)
    (isNew : span ∉ spans)
    {content : Bytes}
    (done : disk.performAll (Log.segmentSteps directory span content) =
      (after, .ok ())) :
    Listed after directory (spans ++ [span]) := by
  rcases Disk.replace_cases done with
    ⟨error, failed, -⟩ | ⟨prepared, isPrepared, moved⟩
  · cases failed
  · obtain ⟨held, -, -, rfl⟩ :=
      Disk.makes_of_effect (Disk.effect_of_perform_ok moved)
    have before := namesIn_prepare isPrepared
    have notNamed : span.fileName ∉ namesIn disk directory := by
      intro present
      obtain ⟨other, isOther, sameName⟩ :=
        List.mem_map.mp (listed.mem_iff.mp present)
      exact isNew (Span.fileName_injective sameName ▸ isOther)
    have names := namesIn_put_of_named (nameIn?_location directory sound)
      (({ prepared with clock := prepared.clock + 1 }).erase
        (Log.scratchLocation directory span)) (.file held)
    rw [namesIn_erase_of_hidden (nameIn?_scratchLocation directory span),
      show namesIn { prepared with clock := prepared.clock + 1 } directory =
        namesIn disk directory from before,
      List.filter_eq_self.mpr fun name present => by
        simpa using ne_of_mem_of_not_mem present notNamed] at names
    rw [Listed, names, List.map_append]
    exact (listed.cons _).trans (List.perm_append_singleton _ _).symm

/-- A segment that is not written is not listed. -/
theorem Listed.write_error
    {disk after : Disk}
    {directory : Location}
    {spans : List Span}
    (listed : Listed disk directory spans)
    {span : Span}
    {content : Bytes}
    {error : FileError}
    (failed : disk.performAll (Log.segmentSteps directory span content) =
      (after, .error error)) :
    Listed after directory spans := by
  rcases Disk.replace_cases failed with
    ⟨_, -, stopped⟩ | ⟨prepared, isPrepared, notMoved⟩
  · rw [Listed, namesIn_prepare stopped]
    exact listed
  · have before := namesIn_prepare isPrepared
    rw [Disk.eq_of_error notMoved (by simp), Listed,
      show namesIn { prepared with clock := prepared.clock + 1 } directory =
        namesIn disk directory from before]
    exact listed

/-- A segment that is removed is no longer listed. -/
theorem Listed.remove
    {disk after : Disk}
    {directory : Location}
    {span : Span}
    {spans : List Span}
    (listed : Listed disk directory (span :: spans))
    (sound : span.Sound)
    (isLast : span ∉ spans)
    (done : disk.perform (.remove (location directory span)) =
      (after, .ok ())) :
    Listed after directory spans := by
  obtain ⟨content, -, rfl⟩ :=
    Disk.makes_of_effect (Disk.effect_of_perform_ok done)
  rw [Listed, namesIn_erase_of_named (nameIn?_location directory sound)]
  have rest : (spans.map Span.fileName).filter (· != span.fileName) =
      spans.map Span.fileName := by
    refine List.filter_eq_self.mpr fun name present => ?_
    obtain ⟨other, isOther, rfl⟩ := List.mem_map.mp present
    have distinct : other.fileName ≠ span.fileName := fun same =>
      isLast (Span.fileName_injective same ▸ isOther)
    simpa using distinct
  have fewer := listed.filter (· != span.fileName)
  rw [List.map_cons, List.filter_cons_of_neg (by simp), rest] at fewer
  exact fewer

end Segment

namespace Log

variable {log : Log} {disk : Disk} {chapters : List Chapter}

/-! ## What the log leaves alone -/

/-- A location is not one of a file in a directory. -/
def Outside (directory place : Location) : Prop :=
  ∀ name, place ≠ directory ++ [name]

/-- A flush touches only files in the directory of the log. -/
theorem item?_flush
    (log : Log)
    (disk : Disk)
    {place : Location}
    (outside : Outside log.directory place) :
    (log.flush disk).disk.item? place = disk.item? place := by
  unfold Log.flush
  split
  · rfl
  · rename_i last _
    have frame :=
      Disk.item?_performAll_replaceSteps disk (Segment.bytes log.sealing)
        (outside
          ((⟨Word.next log.flushedTxid, last⟩ : Span).fileName ++ ".tmp"))
      (outside (⟨Word.next log.flushedTxid, last⟩ : Span).fileName)
    simp only
    split <;> rename_i outcome <;>
      exact (congrArg (·.1.item? place) outcome).symm.trans frame

theorem item?_roll
    (log : Log)
    (disk : Disk)
    {place : Location}
    (outside : Outside log.directory place) :
    (log.roll disk).disk.item? place = disk.item? place :=
  item?_flush log.rotate.1 disk ((flushes_rotate log).directory ▸ outside)

theorem item?_forceSync
    (log : Log)
    (disk : Disk)
    {place : Location}
    (outside : Outside log.directory place) :
    (log.forceSync disk).disk.item? place = disk.item? place := by
  have flushed := item?_flush log disk outside
  unfold Log.forceSync
  simp only
  split
  · exact flushed
  · have rotates := flushes_rotate (log.flush disk).state
    split
    · exact flushed
    · rename_i rotatedLog done
      rw [done] at rotates
      refine (item?_flush rotatedLog (log.flush disk).disk ?_).trans flushed
      rw [rotates.directory, (flush_same log disk).2]
      exact outside

theorem item?_purgeThrough
    (log : Log)
    (disk : Disk)
    (txid : Nat)
    {place : Location}
    (outside : Outside log.directory place) :
    (log.purgeThrough disk txid).disk.item? place = disk.item? place := by
  obtain ⟨dropped, -, -, frame⟩ :=
    purgeSpans_cases disk log.directory txid log.spans
  exact frame place fun span _ => outside span.fileName

/-! ## What the log files -/

/-- The segment files of the directory of a log are those of its spans. -/
def Filed (log : Log) (disk : Disk) : Prop :=
  Segment.Listed disk log.directory log.spans

/-- A flush files the segment that it writes. -/
theorem Filed.flush
    (filed : Filed log disk)
    (shelved : Shelved log disk chapters)
    (word : log.lastTxid ≤ Word.max) :
    Filed (log.flush disk).state (log.flush disk).disk := by
  unfold Log.flush
  split
  · exact filed
  · rename_i last isLast
    obtain ⟨-, -, bound, nonempty⟩ := shelved.sealed isLast
    have some_sealed := List.length_pos_iff.mpr nonempty
    have complete := shelved.complete
    rw [buffered, List.length_append] at complete
    rw [shelved.next_flushedTxid word nonempty]
    simp only
    split
    · rename_i after error failed
      exact Segment.Listed.write_error filed failed
    · rename_i after done
      refine Segment.Listed.write filed ⟨?_, ?_⟩ (fun present => ?_) done
      · simp only
        omega
      · simp only
        omega
      · have limited := shelved.ascending.limited _ (shelved.listed ▸ present)
        simp only at limited
        omega

theorem Filed.rotate (filed : Filed log disk) : Filed log.rotate.1 disk := by
  rcases log.rotate_cases with same | ⟨-, moved⟩
  · rwa [same]
  · rwa [moved]

/-- Rolling files the segment that it writes. -/
theorem Filed.roll
    (filed : Filed log disk)
    (shelved : Shelved log disk chapters)
    (word : log.lastTxid ≤ Word.max) :
    Filed (log.roll disk).state (log.roll disk).disk :=
  filed.rotate.flush shelved.rotate ((flushes_rotate log).lastTxid ▸ word)

/-- Flushing everything files the segments that it writes. -/
theorem Filed.forceSync
    (filed : Filed log disk)
    (shelved : Shelved log disk chapters)
    (word : log.lastTxid ≤ Word.max) :
    Filed (log.forceSync disk).state (log.forceSync disk).disk := by
  have flushed := filed.flush shelved word
  obtain ⟨added, flushes, stillShelved⟩ := shelved.flush word
  have stillWord : (log.flush disk).state.lastTxid ≤ Word.max :=
    flushes.lastTxid ▸ word
  unfold Log.forceSync
  simp only
  split
  · exact flushed
  · have rotated := flushed.rotate
    have rotatedShelved := stillShelved.rotate
    have rotatedWord :=
      (flushes_rotate (log.flush disk).state).lastTxid ▸ stillWord
    split
    · rename_i rotatedLog error failed
      rwa [failed] at rotated
    · rename_i rotatedLog done
      rw [done] at rotated rotatedShelved rotatedWord
      exact rotated.flush rotatedShelved rotatedWord

/-- On an honest disk the file of a segment is removed, or the removal is
reported to fail and everything stays. -/
theorem removeSegment_of_honest
    {disk : Disk}
    (honest : disk.Honest)
    {directory : Location}
    {span : Span}
    {content : Bytes}
    (held : disk.item? (Segment.location directory span) =
      some (.file content)) :
    (∃ after,
      disk.perform (.remove (Segment.location directory span)) =
        (after, .ok ()) ∧
        removeSegment disk directory span = (after, .ok ())) ∨
      ∃ error, removeSegment disk directory span =
        ({ disk with clock := disk.clock + 1 }, .error error) := by
  unfold removeSegment
  cases outcome : disk.perform (.remove (Segment.location directory span)) with
  | mk after answer =>
      cases answer with
      | ok _ => exact .inl ⟨after, rfl, rfl⟩
      | error error =>
          obtain rfl := Disk.eq_of_error outcome (by simp)
          have found : error ≠ .notFound := by
            rintro rfl
            exact honest.remove_ne_notFound held outcome
          refine .inr ⟨.file error, ?_⟩
          split
          · rename_i same
            cases same
          · rename_i same
            cases same
            exact absurd rfl found
          · rename_i same
            cases same
            rfl

/-- A purge on an honest disk files what is left. -/
theorem listed_purgeSpans
    {disk : Disk}
    (honest : disk.Honest)
    {directory : Location}
    {limit : Nat}
    (word : limit ≤ Word.max)
    (txid : Nat)
    {spans : List Span}
    (ascending : Span.Ascending limit spans)
    (files : ∀ span ∈ spans, ∃ content,
      disk.item? (Segment.location directory span) = some (.file content))
    (listed : Segment.Listed disk directory spans) :
    Segment.Listed (purgeSpans disk directory txid spans).1 directory
      (purgeSpans disk directory txid spans).2.1 := by
  induction spans generalizing disk with
  | nil => exact listed
  | cons span rest hypothesis =>
      obtain ⟨⟨content, held⟩, restFiles⟩ := List.forall_mem_cons.mp files
      obtain ⟨above, -⟩ := List.pairwise_cons.mp ascending.apart
      have ordered := ascending.ordered span List.mem_cons_self
      have isLast : span ∉ rest := by
        intro present
        have := above span present
        omega
      rw [purgeSpans]
      split
      · exact listed
      · rcases removeSegment_of_honest honest held with
          ⟨after, done, removed⟩ | ⟨error, kept⟩
        · rw [removed]
          have failures :=
            disk.failures_perform (.remove (Segment.location directory span))
          rw [done] at failures
          apply hypothesis (honest.of_failures failures)
            (ascending.sublist (List.sublist_cons_self span rest)
              (Nat.le_refl _))
          · intro other present
            obtain ⟨content, held⟩ := restFiles other present
            have notRemoved : Segment.location directory other ≠
                Segment.location directory span := by
              intro same
              exact isLast (Segment.location_injective same ▸ present)
            have frame := item?_removeSegment disk directory notRemoved
            rw [removed] at frame
            exact ⟨content, frame.trans held⟩
          · exact listed.remove
              (Segment.sound_of_ascending ascending word List.mem_cons_self)
              isLast done
        · rw [kept]
          exact listed

theorem Filed.purgeThrough
    (filed : Filed log disk)
    (shelved : Shelved log disk chapters)
    (honest : disk.Honest)
    (word : log.flushedTxid ≤ Word.max)
    (txid : Nat) :
    Filed (log.purgeThrough disk txid).state
      (log.purgeThrough disk txid).disk := by
  refine listed_purgeSpans honest word txid (shelved.listed ▸ shelved.ascending)
    ?_ filed
  intro span present
  rw [shelved.listed] at present
  obtain ⟨chapter, isChapter, rfl⟩ := List.mem_map.mp present
  exact ⟨_, shelved.stored chapter isChapter⟩

end Log
end NameService
