import NameService.Proofs.Primary.Standing

/-!
# Starting on an empty data directory

A Primary that is opened on an empty data directory makes the directory of its
log and serves an empty namespace, for which the data directory then stands.
-/

namespace NameService

namespace Disk

/-- An empty directory: it stands, files can be added to it, and nothing is in
it. -/
structure Vacant (disk : Disk) (directory : Location) : Prop where
  stands : disk.Stands directory
  noEnd : ∀ name ∈ directory, '\x00' ∉ name.toList
  /-- Whatever could be in it is not there. -/
  empty : ∀ names, names ≠ [] → (∀ name ∈ names, name ≠ ".." ∧ name ≠ "/") →
    disk.item? (directory ++ names) = none

/-- The working directory of an empty disk is empty. -/
theorem vacant_empty : empty.Vacant [] := by
  refine ⟨by decide, by simp, fun names nonempty inside => ?_⟩
  have notSystemRoot : names ≠ Location.systemRoot := by
    rintro rfl
    exact (inside "/" List.mem_cons_self).2 rfl
  have notUp : names.all (· == "..") = false := by
    obtain ⟨name, rest, rfl⟩ := List.exists_cons_of_ne_nil nonempty
    simp [(inside name List.mem_cons_self).1]
  simp [item?, Location.isLandmark, notSystemRoot, notUp, empty]

variable {disk : Disk} {directory : Location}

/-- The step that makes a directory which is missing in one that stands goes
through, if it is not made to fail. -/
theorem perform_makeDirectory
    (passes : disk.failures disk.clock = none)
    (stands : disk.Stands directory)
    (noEnd : ∀ name ∈ directory, '\x00' ∉ name.toList)
    {name : String}
    (plain : Plain name)
    (missing : disk.item? (directory ++ [name]) = none) :
    disk.perform (.makeDirectory (directory ++ [name])) =
      (({ disk with clock := disk.clock + 1 }).put (directory ++ [name])
        .directory, .ok ()) := by
  have ready :
      ({ disk with clock := disk.clock + 1 }).parentReady
        (directory ++ [name]) =
      .ok () := parentReady_of_stands stands noEnd plain
  have absent :
      ({ disk with clock := disk.clock + 1 }).has (directory ++ [name]) =
        false := by
    simp [has, item?_clock, missing]
  simp [perform, passes, effect, absent, ready, Except.map]

/-- Of a directory that is missing in one that stands only it is made. -/
theorem makeDirectories_of_missing
    (stands : disk.Stands directory)
    {name : String}
    (missing : disk.item? (directory ++ [name]) = none) :
    disk.makeDirectories (directory ++ [name]) =
      disk.performAll [.makeDirectory (directory ++ [name])] := by
  have noFile : disk.hasFile (directory ++ [name]) = false := by
    simp [hasFile, missing]
  have absent : disk.has (directory ++ [name]) = false := by simp [has, missing]
  have higher : (above (directory ++ [name])).any disk.hasFile = false := by
    rw [above_append_singleton, List.any_eq_false]
    intro place present
    simp [stands.hasFile_eq_false present]
  have only : (above (directory ++ [name]) ++ [directory ++ [name]]).filter
      (fun place => !disk.has place) = [directory ++ [name]] := by
    rw [above_append_singleton, List.filter_append, List.filter_eq_nil_iff.mpr]
    · simp [absent]
    · intro place present
      simp [has, hasDirectory_iff.mp (stands place present)]
  rw [makeDirectories, noFile, higher, only]
  rfl

/-- A directory that is missing in one that stands is made, if no step fails. -/
theorem makeDirectories_append_singleton
    (passes : disk.failures disk.clock = none)
    (stands : disk.Stands directory)
    (noEnd : ∀ name ∈ directory, '\x00' ∉ name.toList)
    {name : String}
    (plain : Plain name)
    (missing : disk.item? (directory ++ [name]) = none) :
    disk.makeDirectories (directory ++ [name]) =
      (({ disk with clock := disk.clock + 1 }).put (directory ++ [name])
        .directory, .ok ()) := by
  rw [makeDirectories_of_missing stands missing]
  simp [performAll, perform_makeDirectory passes stands noEnd plain missing]

/-- Where nothing stands, nothing is listed. -/
theorem not_mem_items
    {place : Location}
    (inside : place.isLandmark = false)
    (missing : disk.item? place = none) :
    ∀ entry ∈ disk.items, entry.1 ≠ place := by
  intro entry present same
  rw [item?, inside] at missing
  have unequal := List.lookup_eq_none_iff.mp missing entry present
  simp [same] at unequal

/-- A directory in an empty one holds no segments once it is made. -/
theorem Vacant.namesIn
    (vacant : disk.Vacant directory)
    (name : String)
    (notUp : name ≠ "..")
    (notRoot : name ≠ "/") :
    Segment.namesIn disk (directory ++ [name]) = [] := by
  rw [Segment.namesIn, List.filterMap_eq_nil_iff]
  intro entry present
  cases named : Segment.nameIn? (directory ++ [name]) entry.1 with
  | none => rfl
  | some segment =>
      have isPlace := Segment.eq_of_nameIn? named
      rw [isPlace, Segment.nameIn?_append_singleton] at named
      have segmentNotUp : segment ≠ ".." := by
        rintro rfl
        revert named
        decide
      have segmentNotRoot : segment ≠ "/" := by
        rintro rfl
        revert named
        decide
      have missing := vacant.empty [name, segment] (by simp) (by
        simp [notUp, notRoot, segmentNotUp, segmentNotRoot])
      refine absurd isPlace (not_mem_items
        (Location.isLandmark_append_singleton segmentNotUp segmentNotRoot _) ?_
        entry present)
      simpa using missing

/-! ## Directories that are not used yet -/

/-- The way to a directory is clear: no file is on it, and what is missing of it
can be made. -/
structure Clear (disk : Disk) (directory : Location) : Prop where
  noEnd : ∀ name ∈ directory, '\x00' ∉ name.toList
  noFile : ∀ place ∈ above directory ++ [directory], disk.hasFile place = false
  short : ∀ place ∈ above directory ++ [directory], disk.has place = false →
    ∀ name ∈ place.getLast?, name.utf8ByteSize ≤ Location.maxNameLength

/-- A directory that was not used yet: it can be made, unless it is there, and
nothing is in it. -/
structure Fresh (disk : Disk) (directory : Location) : Prop where
  reliable : disk.Reliable
  clear : disk.Clear directory
  /-- Whatever could be in it is not there. -/
  empty : ∀ names, names ≠ [] → (∀ name ∈ names, name ≠ ".." ∧ name ≠ "/") →
    disk.item? (directory ++ names) = none

/-- An empty directory is fresh. -/
theorem Vacant.fresh
    (vacant : disk.Vacant directory)
    (reliable : disk.Reliable) :
    disk.Fresh directory := by
  refine ⟨reliable,
    ⟨vacant.noEnd, fun place present => vacant.stands.hasFile_eq_false present,
      fun place present missing => ?_⟩, vacant.empty⟩
  have there := hasDirectory_iff.mp (vacant.stands place present)
  simp [has, there] at missing

/-- What is in a directory is neither it nor above it. -/
theorem not_mem_above
    (directory : Location)
    {names : List String}
    (nonempty : names ≠ []) :
    directory ++ names ∉ above directory ++ [directory] := by
  have longer := List.length_pos_iff.mpr nonempty
  intro present
  rcases List.mem_append.mp present with higher | own
  · have shorter := length_le_of_mem_above higher
    rw [List.length_append] at shorter
    omega
  · exact nonempty (List.append_right_eq_self.mp (List.mem_singleton.mp own))

/-- There is no file in a fresh directory. -/
theorem Fresh.has_eq_false
    (fresh : disk.Fresh directory)
    {name : String}
    (notUp : name ≠ "..")
    (notRoot : name ≠ "/") :
    disk.has (directory ++ [name]) = false := by
  rw [has, fresh.empty [name] (by simp) (by simp [notUp, notRoot])]
  rfl

/-- The way to a directory is clear up to the directory above it. -/
theorem Clear.before
    {name : String}
    (clear : disk.Clear (directory ++ [name])) :
    disk.Clear directory := by
  have further : ∀ place ∈ above directory ++ [directory],
      place ∈ above (directory ++ [name]) ++ [directory ++ [name]] :=
    fun place present =>
    List.mem_append_left _ (above_append_singleton directory name ▸ present)
  exact ⟨fun other present =>
    clear.noEnd other (List.mem_append_left _ present),
    fun place present => clear.noFile place (further place present),
    fun place present => clear.short place (further place present)⟩

/-- With a clear way to a directory all that is missing of it is made, from the
top. -/
theorem Clear.makeDirectories_eq (clear : disk.Clear directory) :
    disk.makeDirectories directory = disk.performAll
      (((above directory ++ [directory]).filter fun place =>
        !disk.has place).map .makeDirectory) := by
  have ownFree :=
    clear.noFile directory (List.mem_append_right _ List.mem_cons_self)
  have higherFree : (above directory).any disk.hasFile = false :=
    List.any_eq_false.mpr fun place present => by
      simp [clear.noFile place (List.mem_append_left _ present)]
  rw [makeDirectories, ownFree, higherFree]
  rfl

/-- A directory is made if the way to it is clear and no step fails. -/
theorem Clear.makes (reliable : disk.Reliable) (clear : disk.Clear directory) :
    ∃ made, disk.makeDirectories directory = (made, .ok ()) := by
  induction directory using List.reverseRecOn with
  | nil =>
      refine ⟨disk, makeDirectories_of_stands fun place present => ?_⟩
      obtain rfl := List.mem_singleton.mp present
      rfl
  | append_singleton directory name hypothesis =>
      obtain ⟨between, isMade⟩ := hypothesis clear.before
      have absentStill := disk.item?_makeDirectories
        (not_mem_above directory (List.cons_ne_nil name []))
      rw [isMade] at absentStill
      have stands := stands_of_makeDirectories isMade
      rw [clear.before.makeDirectories_eq] at isMade
      rw [clear.makeDirectories_eq, above_append_singleton, List.filter_append,
        List.map_append, performAll_append, isMade]
      by_cases there : disk.has (directory ++ [name]) = true
      · exact ⟨between, by simp [there]⟩
      · have missing : disk.has (directory ++ [name]) = false :=
          Bool.not_eq_true _ ▸ there
        have own : directory ++ [name] ∈
            above (directory ++ [name]) ++ [directory ++ [name]] :=
          List.mem_append_right _ List.mem_cons_self
        have plain : Plain name :=
          ⟨clear.noEnd name (List.mem_append_right _ List.mem_cons_self),
            clear.short _ own missing name (by simp)⟩
        have missingStill : between.item? (directory ++ [name]) = none := by
          rw [show between.item? _ = _ from absentStill]
          simpa [has] using missing
        have done :=
          perform_makeDirectory (reliable.of_performAll isMade _) stands
            clear.before.noEnd plain missingStill
        exact ⟨_, by simp [missing, performAll, done]; rfl⟩

/-- Making directories puts no file anywhere. -/
theorem hasFile_performAll_makeDirectory
    (disk : Disk)
    (places : List Location)
    {place : Location}
    (noFile : disk.hasFile place = false) :
    (disk.performAll (places.map .makeDirectory)).1.hasFile place = false := by
  refine performAll_induction (fun step => ∃ made, step = .makeDirectory made)
    (fun after => after.hasFile place = false) (fun _ _ _ isMade => ?_)
    (fun _ _ kept => kept) (fun before after step isMade done kept => ?_) noFile
      fun step present => ?_
  · obtain ⟨made, same⟩ := isMade
    cases same
  · obtain ⟨made, rfl⟩ := isMade
    obtain ⟨-, rfl⟩ := makes_of_effect done
    by_cases own : place = made
    · subst own
      cases landmark : place.isLandmark with
      | true => simp [hasFile, item?_of_isLandmark landmark]
      | false => simp [hasFile, item?_put_self landmark]
    · rw [hasFile, item?_put_of_ne own]
      exact kept
  · obtain ⟨made, -, rfl⟩ := List.mem_map.mp present
    exact ⟨made, rfl⟩

/-- The way to a directory that is in the making stays clear. -/
theorem Clear.makeDirectories (clear : disk.Clear directory) :
    (disk.makeDirectories directory).1.Clear directory := by
  rw [clear.makeDirectories_eq]
  refine ⟨clear.noEnd, fun place present => ?_, fun place present missing => ?_⟩
  · exact disk.hasFile_performAll_makeDirectory _ (clear.noFile place present)
  · refine clear.short place present ?_
    by_contra there
    have isDirectory := hasDirectory_of_has (Bool.not_eq_false _ ▸ there)
      (clear.noFile place present)
    have still := hasDirectory_iff.mp (disk.retains_performAll
      (((above directory ++ [directory]).filter fun place =>
        !disk.has place).map .makeDirectory) place isDirectory)
    rw [has, still] at missing
    cases missing

/-- When making a fresh directory fails, or is cut off, the directory is still
fresh. -/
theorem Fresh.interrupted
    (fresh : disk.Fresh directory)
    (failures : Nat → Option Failure) :
    ((disk.failing failures).makeDirectories directory).1.mended.Fresh
      directory := by
  have clear : (disk.failing failures).Clear directory :=
    ⟨fresh.clear.noEnd, fresh.clear.noFile, fresh.clear.short⟩
  have clearStill := clear.makeDirectories
  refine ⟨reliable_mended _,
    ⟨clearStill.noEnd, clearStill.noFile, clearStill.short⟩,
    fun names nonempty inside => ?_⟩
  exact ((disk.failing failures).item?_makeDirectories
    (not_mem_above directory nonempty)).trans
    (fresh.empty names nonempty inside)

/-- A fresh directory that was made is empty, whatever may fail later on. -/
theorem Fresh.vacant
    (fresh : disk.Fresh directory)
    {failures : Nat → Option Failure}
    {made : Disk}
    (isMade : (disk.failing failures).makeDirectories directory =
      (made, .ok ())) :
    made.Vacant directory := by
  refine ⟨stands_of_makeDirectories isMade, fresh.clear.noEnd,
    fun names nonempty inside => ?_⟩
  have same :=
    (disk.failing failures).item?_makeDirectories
      (not_mem_above directory nonempty)
  rw [isMade] at same
  exact same.trans (fresh.empty names nonempty inside)

/-- A fresh directory is made, and it is empty then. -/
theorem Fresh.made (fresh : disk.Fresh directory) :
    ∃ made, disk.makeDirectories directory = (made, .ok ()) ∧ made.Reliable ∧
      made.Vacant directory := by
  obtain ⟨made, isMade⟩ := fresh.clear.makes fresh.reliable
  have failures := failures_makeDirectories disk directory
  rw [isMade] at failures
  refine ⟨made, isMade, fun step => ?_,
    fresh.vacant
      (show (disk.failing disk.failures).makeDirectories directory = _ from
        isMade)⟩
  rw [failures]
  exact fresh.reliable step

end Disk

namespace Primary

variable {disk : Disk} {settings : Settings}

/-- The disk once the directory of the log was made. -/
def started (disk : Disk) (settings : Settings) : Disk :=
  ({ disk with clock := disk.clock + 1 }).put settings.editsLocation .directory

/-- Making the directory of the log leaves everything else. -/
theorem item?_started
    (disk : Disk)
    (settings : Settings)
    {place : Location}
    (other : place ≠ settings.editsLocation) :
    (started disk settings).item? place = disk.item? place :=
  Disk.item?_put_of_ne other { disk with clock := disk.clock + 1 } .directory

/-- The directory of the log stands once it was made. -/
theorem stands_started (stands : disk.Stands settings.home) :
    (started disk settings).Stands settings.editsLocation := by
  intro place present
  rw [Disk.hasDirectory_iff]
  rw [Settings.editsLocation, Disk.above_append_singleton] at present
  rcases List.mem_append.mp present with higher | own
  · rw [item?_started disk settings (Disk.ne_of_mem_above_self higher _)]
    exact Disk.hasDirectory_iff.mp (stands place higher)
  · obtain rfl := List.mem_singleton.mp own
    exact Disk.item?_put_self
      (Location.isLandmark_append_singleton (by decide) (by decide)
        settings.home) _ _

/-- The directory of the log holds no segments once it was made. -/
theorem listed_started (vacant : disk.Vacant settings.home) :
    Segment.Listed (started disk settings) settings.editsLocation [] := by
  have hidden : Segment.nameIn? settings.editsLocation settings.editsLocation =
      none := by
    simp [Segment.nameIn?, Settings.editsLocation]
  rw [Segment.Listed, started, Segment.namesIn_put_of_hidden hidden]
  exact .of_eq (vacant.namesIn Settings.editsName (by decide) (by decide))

/-- The data directory stands for an empty history once the directory of the log
was made in it. -/
theorem stored_started (vacant : disk.Vacant settings.home) :
    Stored settings (started disk settings) [] 0 := by
  have missing (name : String) (notUp : name ≠ "..") (notRoot : name ≠ "/")
      (other : name ≠ Settings.editsName) :
      (started disk settings).item? (settings.home ++ [name]) = none := by
    rw [item?_started disk settings (append_ne_append other settings.home)]
    exact vacant.empty [name] (by simp) (by simp [notUp, notRoot])
  refine ⟨⟨stands_started vacant.stands, vacant.noEnd, .inr ⟨?_, rfl⟩, ?_⟩,
    .inl ⟨?_, rfl⟩, Nat.le_refl 0⟩
  · exact missing Settings.checkpointTxidName (by decide) (by decide)
      (by decide)
  · rw [scratch_checkpoint, missing _ (by decide) (by decide) (by decide)]
    decide
  · exact missing Settings.imageName (by decide) (by decide) (by decide)

/-- A new log stands for an empty history. -/
theorem logged_started (vacant : disk.Vacant settings.home) :
    Logged (recovered settings [] [] 0 0).catalog.log (started disk settings) []
      0 [] :=
  ⟨Log.shelved_ofSpans_nil _ _ _, listed_started vacant,
    fun _ present => (List.not_mem_nil present).elim, rfl, trivial, rfl, rfl⟩

/-- There is no file in an empty data directory. -/
theorem has_of_vacant
    (vacant : disk.Vacant settings.home)
    {name : String}
    (notUp : name ≠ "..")
    (notRoot : name ≠ "/") :
    disk.has (settings.home ++ [name]) = false := by
  rw [Disk.has, vacant.empty [name] (by simp) (by simp [notUp, notRoot])]
  rfl

/-- There are no segments in an empty data directory. -/
theorem list_of_vacant (vacant : disk.Vacant settings.home) :
    Segment.list disk settings.editsLocation = .ok [] := by
  rw [Segment.list, show disk.has settings.editsLocation = false from
    has_of_vacant vacant (by decide) (by decide)]
  rfl

/-- An empty namespace is recovered from an empty data directory, and the
directory of its log is made, if that does not fail. -/
theorem recover_of_vacant
    (passes : disk.failures disk.clock = none)
    (vacant : disk.Vacant settings.home) :
    Catalog.recover disk settings.editsLocation settings.segmentSize none 0 =
      (started disk settings,
        .ok (.new
          (.ofSpans settings.editsLocation settings.segmentSize []))) := by
  have made : disk.makeDirectories settings.editsLocation =
      (started disk settings, .ok ()) :=
    Disk.makeDirectories_append_singleton passes vacant.stands vacant.noEnd
      ⟨by decide, by decide⟩
      (vacant.empty [Settings.editsName] (by simp) (by decide))
  have listed :=
    (listed_started vacant).list_eq (stands_started vacant.stands).item?_eq
      (Span.ascending_nil 0) (Nat.zero_le _)
  simp only [Catalog.recover, Recovery.replay, list_of_vacant vacant,
    Log.openAt, made, listed]
  rfl

/-- A recovery from an empty data directory leaves it empty, or with the
directory of the log. -/
theorem recover_leaves
    (vacant : disk.Vacant settings.home)
    {after : Disk}
    (leaves :
      (Catalog.recover disk settings.editsLocation settings.segmentSize none
        0).1 =
      after) :
    after.mended.Fresh settings.home ∨
      ∃ made, made.Vacant settings.home ∧
      after.mended = started made settings := by
  cases fails : disk.failures disk.clock with
  | none =>
      rw [recover_of_vacant fails vacant] at leaves
      exact .inr ⟨disk.mended, ⟨vacant.stands, vacant.noEnd, vacant.empty⟩,
        congrArg Disk.mended leaves.symm⟩
  | some failure =>
      have unmade : disk.makeDirectories settings.editsLocation =
          ({ disk with clock := disk.clock + 1 }, .error failure.error) := by
        rw [Settings.editsLocation,
          Disk.makeDirectories_of_missing vacant.stands
            (vacant.empty [Settings.editsName] (by simp) (by decide))]
        simp [Disk.performAll, Disk.perform, fails, Disk.cutShort]
      have isAfter : { disk with clock := disk.clock + 1 } = after := by
        rw [← leaves]
        simp only [Catalog.recover, Recovery.replay, list_of_vacant vacant,
          Log.openAt, unmade]
        rfl
      have stillVacant : after.mended.Vacant settings.home := by
        rw [← isAfter]
        exact ⟨vacant.stands, vacant.noEnd, vacant.empty⟩
      exact .inl (stillVacant.fresh (Disk.reliable_mended after))

/-- There is no image and no checkpoint id in an empty data directory. -/
theorem load_of_vacant (vacant : disk.Vacant settings.home) :
    settings.checkpointStore.load disk = .ok 0 ∧
      Image.load disk settings.imageLocation = .ok none := by
  constructor
  · rw [Checkpoint.Store.load,
      show disk.has settings.checkpointStore.location = false from
      has_of_vacant vacant (by decide) (by decide)]
    rfl
  · rw [Image.load, show disk.has settings.imageLocation = false from
      has_of_vacant vacant (by decide) (by decide)]
    rfl

/-- A Primary is opened on an empty data directory with an empty namespace, once
the directory of its log is made. -/
theorem openAt_of_vacant
    (reliable : disk.Reliable)
    (vacant : disk.Vacant settings.home) :
    openAt disk settings =
      (started disk settings, .ok (recovered settings [] [] 0 0)) := by
  obtain ⟨noCheckpoint, noImage⟩ := load_of_vacant vacant
  unfold openAt
  rw [Disk.makeDirectories_of_stands vacant.stands]
  simp only [noCheckpoint, noImage, recover_of_vacant (reliable _) vacant]
  rfl

/-- A Primary is opened on a fresh data directory with an empty namespace. -/
theorem openAt_of_fresh (fresh : disk.Fresh settings.home) :
    ∃ made, made.Vacant settings.home ∧
      openAt disk settings =
        (started made settings, .ok (recovered settings [] [] 0 0)) := by
  obtain ⟨made, isMade, reliable, vacant⟩ := fresh.made
  have again : openAt disk settings = openAt made settings := by
    rw [openAt, openAt, isMade, Disk.makeDirectories_of_stands vacant.stands]
  exact ⟨made, vacant, again.trans (openAt_of_vacant reliable vacant)⟩

/-- A start on a fresh data directory that is cut off leaves it fresh, or with
the directory of the log. -/
theorem openAt_leaves
    (fresh : disk.Fresh settings.home)
    (failures : Nat → Option Disk.Failure) :
    let after := (openAt (disk.failing failures) settings).1
    after.mended.Fresh settings.home ∨
      ∃ made, made.Vacant settings.home ∧
      after.mended = started made settings := by
  have interrupted := fresh.interrupted failures
  intro after
  cases outcome : (disk.failing failures).makeDirectories settings.home with
  | mk made answer =>
      cases answer with
      | error cause =>
          rw [outcome] at interrupted
          have isAfter : after = made := by simp only [after, openAt, outcome]
          exact .inl (isAfter ▸ interrupted)
      | ok done =>
          have vacant := fresh.vacant outcome
          obtain ⟨noCheckpoint, noImage⟩ := load_of_vacant vacant
          refine recover_leaves vacant ?_
          simp only [after, openAt, outcome, noCheckpoint, noImage]

/-- A Primary that is opened on a data directory has read its checkpoint id and
its image, and recovered its catalog from them. -/
theorem openAt_eq_ok
    {after : Disk}
    {primary : Primary}
    (opened : openAt disk settings = (after, .ok primary)) :
    ∃ made image catalog,
      disk.makeDirectories settings.home = (made, .ok ()) ∧
      settings.checkpointStore.load made = .ok primary.checkpointTxid ∧
      Image.load made settings.imageLocation = .ok image ∧
      Catalog.recover made settings.editsLocation settings.segmentSize image
        primary.checkpointTxid = (after, .ok catalog) ∧
      primary = ⟨settings, catalog, Fetcher.new settings.batchSize, .empty,
        primary.checkpointTxid, false⟩ := by
  unfold openAt at opened
  split at opened
  · cases opened
  · rename_i made isMade
    split at opened
    · cases opened
    · rename_i checkpointTxid loaded
      split at opened
      · cases opened
      · rename_i image isImage
        cases recovered : Catalog.recover made settings.editsLocation
          settings.segmentSize image checkpointTxid with
        | mk other answer =>
            rw [recovered] at opened
            cases answer with
            | error cause => cases opened
            | ok catalog =>
                cases opened
                exact ⟨made, image, catalog, isMade, loaded, isImage, recovered,
                  rfl⟩

end Primary
end NameService
