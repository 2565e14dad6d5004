import NameService.Proofs.Disk.Steps

/-!
# Directories that stand

A directory stands if it is there with everything above it. Making it again does
nothing, and files of plain names can be added to it on a disk that does not
fail.
-/

namespace NameService

namespace Location

/-- A file in a directory is no landmark, unless its name is a step up or a
root. -/
theorem isLandmark_append_singleton
    {name : String}
    (notUp : name ≠ "..")
    (notRoot : name ≠ "/")
    (directory : Location) :
    (directory ++ [name]).isLandmark = false := by
  have notSystemRoot : directory ++ [name] ≠ systemRoot := fun same => by
    have last := congrArg List.getLast? same
    simp [systemRoot] at last
    exact notRoot last
  simp [isLandmark, notUp, notSystemRoot]

end Location

namespace Disk

/-- A directory is there, and so is every one above it. -/
def Stands (disk : Disk) (directory : Location) : Prop :=
  ∀ place ∈ above directory ++ [directory], disk.hasDirectory place = true

instance (disk : Disk) (directory : Location) :
    Decidable (disk.Stands directory) :=
  inferInstanceAs
    (Decidable
      (∀ place ∈ above directory ++ [directory],
        disk.hasDirectory place = true))

theorem hasDirectory_iff {disk : Disk} {place : Location} :
    disk.hasDirectory place = true ↔ disk.item? place = some .directory := by
  simp [hasDirectory]

theorem Stands.item?_eq
    {disk : Disk}
    {directory : Location}
    (stands : disk.Stands directory) :
    disk.item? directory = some .directory :=
  hasDirectory_iff.mp
    (stands directory (List.mem_append_right _ List.mem_cons_self))

/-- No file is in the way to a directory that stands. -/
theorem Stands.hasFile_eq_false
    {disk : Disk}
    {directory place : Location}
    (stands : disk.Stands directory)
    (present : place ∈ above directory ++ [directory]) :
    disk.hasFile place = false := by
  simp [hasFile, hasDirectory_iff.mp (stands place present)]

/-- A directory that stands is not made again. -/
theorem makeDirectories_of_stands
    {disk : Disk}
    {directory : Location}
    (stands : disk.Stands directory) :
    disk.makeDirectories directory = (disk, .ok ()) := by
  have own :=
    stands.hasFile_eq_false (List.mem_append_right _ List.mem_cons_self)
  have higher : (above directory).any disk.hasFile = false := by
    rw [List.any_eq_false]
    intro place present
    simp [stands.hasFile_eq_false (List.mem_append_left _ present)]
  have nothing :
      (above directory ++ [directory]).filter (fun place => !disk.has place) =
        [] := by
    rw [List.filter_eq_nil_iff]
    intro place present
    simp [has, hasDirectory_iff.mp (stands place present)]
  rw [makeDirectories, own, higher, nothing]
  rfl

/-! ## Files in a directory that stands -/

theorem above_append_singleton (directory : Location) (name : String) :
    above (directory ++ [name]) = above directory ++ [directory] := by
  induction directory with
  | nil => rfl
  | cons first rest hypothesis => simp [above, hypothesis]

theorem length_le_of_mem_above
    {location place : Location}
    (present : place ∈ above location) :
    place.length ≤ location.length := by
  induction location generalizing place with
  | nil => cases present
  | cons name rest hypothesis =>
      rcases List.mem_cons.mp present with rfl | below
      · exact Nat.zero_le _
      · obtain ⟨tail, inRest, rfl⟩ := List.mem_map.mp below
        exact Nat.succ_le_succ (hypothesis inRest)

theorem length_above (location : Location) :
    (above location).length = location.length := by
  induction location with
  | nil => rfl
  | cons name rest hypothesis => simp [above, hypothesis]

/-- A name of a file: no name is longer, and none holds the character that ends
names. -/
structure Plain (name : String) : Prop where
  noEnd : '\x00' ∉ name.toList
  short : name.utf8ByteSize ≤ Location.maxNameLength

/-- A directory stays when nothing of it is touched. -/
theorem Stands.frame
    {disk after : Disk}
    {directory : Location}
    (stands : disk.Stands directory)
    (frame : ∀ place ∈ above directory ++ [directory],
      after.item? place = disk.item? place) :
    after.Stands directory := by
  intro place present
  rw [hasDirectory_iff, frame place present]
  exact hasDirectory_iff.mp (stands place present)

/-- A file in a directory is not the directory, nor one above it. -/
theorem ne_of_mem_above_self
    {directory place : Location}
    (present : place ∈ above directory ++ [directory])
    (name : String) :
    place ≠ directory ++ [name] := by
  have bound : place.length ≤ directory.length := by
    rcases List.mem_append.mp present with higher | own
    · exact length_le_of_mem_above higher
    · exact Nat.le_of_eq (congrArg List.length (List.mem_singleton.mp own))
  rintro rfl
  rw [List.length_append, List.length_singleton] at bound
  omega

/-- What is not in a directory that stands, under a name of a file, is
missing. -/
theorem absence_of_stands
    {disk : Disk}
    {directory : Location}
    (stands : disk.Stands directory)
    (noEnd : ∀ name ∈ directory, '\x00' ∉ name.toList)
    {name : String}
    (plain : Plain name) :
    disk.absence (directory ++ [name]) = .notFound := by
  have named :
      ((directory ++ [name]).any fun name => name.toList.contains '\x00') =
        false := by
    rw [List.any_eq_false]
    intro other present
    rcases List.mem_append.mp present with inDirectory | isName
    · simpa using noEnd other inDirectory
    · obtain rfl := List.mem_singleton.mp isName
      simpa using plain.noEnd
  have open_ : (above (directory ++ [name])).any disk.hasFile = false := by
    rw [above_append_singleton, List.any_eq_false]
    intro place present
    simp [stands.hasFile_eq_false present]
  have all : (above (directory ++ [name])).filter disk.hasDirectory =
      above (directory ++ [name]) := by
    rw [above_append_singleton]
    exact List.filter_eq_self.mpr stands
  have missing : disk.firstMissing? (directory ++ [name]) = some name := by
    rw [firstMissing?, all, length_above]
    simp
  have short : ¬ Location.maxNameLength < name.utf8ByteSize :=
    Nat.not_lt.mpr plain.short
  rw [absence, named, open_, missing]
  simp [short]

/-- A file of a plain name can be added to a directory that stands. -/
theorem parentReady_of_stands
    {disk : Disk}
    {directory : Location}
    (stands : disk.Stands directory)
    (noEnd : ∀ name ∈ directory, '\x00' ∉ name.toList)
    {name : String}
    (plain : Plain name) :
    disk.parentReady (directory ++ [name]) = .ok () := by
  have own := stands directory (List.mem_append_right _ List.mem_cons_self)
  rw [parentReady, absence_of_stands stands noEnd plain, List.dropLast_concat]
  simp [own]

/-! ## Directories that stay -/

/-- Every directory of a disk is still there. -/
def Retains (disk after : Disk) : Prop :=
  ∀ place, disk.hasDirectory place = true → after.hasDirectory place = true

theorem retains_refl (disk : Disk) :
    disk.Retains disk := fun _ present => present

theorem Retains.trans
    {disk between after : Disk}
    (first : disk.Retains between)
    (second : between.Retains after) :
    disk.Retains after :=
  fun place present => second place (first place present)

/-- A directory that stands goes on standing as long as directories stay. -/
theorem Stands.retained
    {disk after : Disk}
    {directory : Location}
    (stands : disk.Stands directory)
    (retains : disk.Retains after) :
    after.Stands directory :=
  fun place present => retains place (stands place present)

/-- What is put where no directory is replaces none. -/
theorem retains_put
    {disk : Disk}
    {location : Location}
    (notDirectory : disk.item? location ≠ some .directory)
    (item : Item) :
    disk.Retains (disk.put location item) := by
  intro place present
  have other : place ≠ location := by
    rintro rfl
    exact notDirectory (hasDirectory_iff.mp present)
  rw [hasDirectory_iff, item?_put_of_ne other]
  exact hasDirectory_iff.mp present

/-- What is erased where a file is was no directory. -/
theorem retains_erase
    {disk : Disk}
    {location : Location}
    {content : Bytes}
    (held : disk.item? location = some (.file content)) :
    disk.Retains (disk.erase location) := by
  intro place present
  have other : place ≠ location := by
    rintro rfl
    rw [hasDirectory_iff, held] at present
    cases present
  rw [hasDirectory_iff, item?_erase_of_ne other]
  exact hasDirectory_iff.mp present

/-- No step takes a directory away. -/
theorem retains_effect
    {disk after : Disk}
    {step : Step}
    (done : disk.effect step = .ok after) :
    disk.Retains after := by
  have makes := makes_of_effect done
  cases step with
  | makeDirectory location =>
      obtain ⟨notDirectory, rfl⟩ := makes
      exact retains_put notDirectory _
  | create location =>
      obtain ⟨notDirectory, rfl⟩ := makes
      exact retains_put notDirectory _
  | write location content =>
      obtain ⟨old, held, rfl⟩ := makes
      exact retains_put (by simp [held]) _
  | sync location =>
      obtain rfl : after = disk := makes
      exact retains_refl after
  | rename source target =>
      obtain ⟨content, held, notDirectory, rfl⟩ := makes
      refine (retains_erase held).trans (retains_put ?_ _)
      by_cases same : target = source
      · have noDirectory : disk.item? source ≠ some .directory := by simp [held]
        simp [same,
          item?_erase_self (isLandmark_eq_false_of_item?_ne noDirectory)]
      · rwa [item?_erase_of_ne same]
  | remove location =>
      obtain ⟨content, held, rfl⟩ := makes
      exact retains_erase held

/-- A step takes no directory away, whether it succeeds or not. -/
theorem retains_perform (disk : Disk) (step : Step) :
    disk.Retains (disk.perform step).1 :=
  perform_induction (fun _ => True) disk.Retains (fun _ _ _ _ => trivial)
    (fun _ _ kept => kept)
    (fun _ _ _ _ done kept => kept.trans (retains_effect done))
    (retains_refl disk) trivial

/-- Steps take no directory away. -/
theorem retains_performAll (disk : Disk) (steps : List Step) :
    disk.Retains (disk.performAll steps).1 :=
  performAll_keeps
    (fun after step kept => kept.trans (retains_perform after step))
    (retains_refl disk) steps

/-- Directories that are made one after the other are there in the end. -/
theorem hasDirectory_of_performAll
    {disk after : Disk}
    {places : List Location}
    (made : disk.performAll (places.map .makeDirectory) = (after, .ok ()))
    {place : Location}
    (present : place ∈ places) :
    after.hasDirectory place = true := by
  induction places generalizing disk with
  | nil => cases present
  | cons first rest hypothesis =>
      obtain ⟨between, one, others⟩ := performAll_cons_ok.mp made
      rcases List.mem_cons.mp present with rfl | behind
      · have retains := between.retains_performAll (rest.map .makeDirectory)
        rw [others] at retains
        obtain ⟨-, rfl⟩ := makes_of_effect (effect_of_perform_ok one)
        refine retains place (hasDirectory_iff.mpr ?_)
        cases landmark : place.isLandmark with
        | true => exact item?_of_isLandmark landmark _
        | false => exact item?_put_self landmark _ _
      · exact hypothesis others behind

/-- What is there and is no file is a directory. -/
theorem hasDirectory_of_has
    {disk : Disk}
    {place : Location}
    (there : disk.has place = true)
    (noFile : disk.hasFile place = false) :
    disk.hasDirectory place = true := by
  rw [hasDirectory_iff]
  cases held : disk.item? place with
  | none => simp [has, held] at there
  | some item =>
      cases item with
      | file content => simp [hasFile, held] at noFile
      | directory => rfl

/-- A directory that was made stands. -/
theorem stands_of_makeDirectories
    {disk after : Disk}
    {directory : Location}
    (made : disk.makeDirectories directory = (after, .ok ())) :
    after.Stands directory := by
  unfold makeDirectories at made
  split at made
  · cases made
  · rename_i ownFree
    split at made
    · cases made
    · rename_i higherFree
      intro place present
      by_cases there : disk.has place = true
      · have noFile : disk.hasFile place = false := by
          rcases List.mem_append.mp present with higher | own
          · simpa using
              List.any_eq_false.mp (Bool.not_eq_true _ ▸ higherFree) place
                higher
          · rw [List.mem_singleton.mp own]
            exact Bool.not_eq_true _ ▸ ownFree
        have retains := disk.retains_performAll
          (((above directory ++ [directory]).filter fun place =>
            !disk.has place).map .makeDirectory)
        rw [made] at retains
        exact retains place (hasDirectory_of_has there noFile)
      · exact hasDirectory_of_performAll made
          (List.mem_filter.mpr ⟨present, by simpa using there⟩)

/-! ## Steps that do not fail -/

/-- No step of the disk is made to fail. -/
def Reliable (disk : Disk) : Prop := ∀ step, disk.failures step = none

/-- No failure passes for a missing file, so a file that a removal does not find
is gone. -/
def Honest (disk : Disk) : Prop :=
  ∀ step failure, disk.failures step = some failure → failure.error ≠ .notFound

theorem Reliable.honest {disk : Disk} (reliable : disk.Reliable) :
    disk.Honest := by
  intro step failure fails
  simp [reliable step] at fails

theorem Honest.of_failures
    {disk after : Disk}
    (honest : disk.Honest)
    (same : after.failures = disk.failures) :
    after.Honest := by
  intro step failure fails
  exact honest step failure (same ▸ fails)

/-- On an honest disk a file is not reported missing by its removal. -/
theorem Honest.remove_ne_notFound
    {disk after : Disk}
    (honest : disk.Honest)
    {location : Location}
    {content : Bytes}
    (held : disk.item? location = some (.file content)) :
    disk.perform (.remove location) ≠ (after, .error .notFound) := by
  intro missing
  unfold perform at missing
  cases fails : disk.failures disk.clock with
  | some failure =>
      simp only [fails, Prod.mk.injEq, Except.error.injEq] at missing
      exact honest _ failure fails missing.2
  | none => simp [fails, effect, held] at missing

/-- Making a directory leaves the schedule of failures. -/
theorem failures_makeDirectories (disk : Disk) (directory : Location) :
    (disk.makeDirectories directory).1.failures = disk.failures := by
  unfold makeDirectories
  split
  · rfl
  · split
    · rfl
    · exact disk.failures_performAll _

/-- Making a directory changes nothing but it and what is above it. -/
theorem item?_makeDirectories
    (disk : Disk)
    {directory place : Location}
    (elsewhere : place ∉ above directory ++ [directory]) :
    (disk.makeDirectories directory).1.item? place = disk.item? place := by
  unfold makeDirectories
  split
  · rfl
  · split
    · rfl
    · refine disk.item?_performAll fun step present => ?_
      obtain ⟨made, isMade, rfl⟩ := List.mem_map.mp present
      rintro touched
      obtain rfl := List.mem_singleton.mp touched
      exact elsewhere (List.mem_filter.mp isMade).1

/-- The same disk with other steps failing. -/
def failing (disk : Disk) (failures : Nat → Option Failure) : Disk :=
  { disk with failures := failures }

/-- The same disk with no step failing. -/
def mended (disk : Disk) : Disk := disk.failing fun _ => none

theorem reliable_mended (disk : Disk) : disk.mended.Reliable := fun _ => rfl

theorem Reliable.of_performAll
    {disk after : Disk}
    (reliable : disk.Reliable)
    {steps : List Step}
    {answer : Except FileError Unit}
    (outcome : disk.performAll steps = (after, answer)) :
    after.Reliable := by
  intro other
  have kept := failures_performAll disk steps
  rw [outcome] at kept
  rw [show after.failures = disk.failures from kept]
  exact reliable other

/-- A step that can be taken is taken. -/
theorem perform_of_effect
    {disk : Disk}
    (reliable : disk.Reliable)
    {step : Step}
    (possible : ∃ after,
      { disk with clock := disk.clock + 1 }.effect step = .ok after) :
    ∃ after, disk.perform step = (after, .ok ()) := by
  obtain ⟨after, done⟩ := possible
  exact ⟨after, by simp only [perform, reliable disk.clock, done]⟩

/-- A file is created where one stands, or where one can be added. -/
theorem effect_create
    {disk : Disk}
    {location : Location}
    (notDirectory : disk.item? location ≠ some .directory)
    (ready : disk.parentReady location = .ok ()) :
    ∃ after, disk.effect (.create location) = .ok after := by
  cases held : disk.item? location with
  | none =>
      exact ⟨disk.put location (.file []),
        by simp [effect, held, ready, Except.map]⟩
  | some item =>
      cases item with
      | directory => exact absurd held notDirectory
      | file content =>
          exact ⟨disk.put location (.file []), by simp [effect, held]⟩

/-- A file is moved over another one, or to where one can be added. -/
theorem effect_rename
    {disk : Disk}
    {source target : Location}
    {content : Bytes}
    (held : disk.item? source = some (.file content))
    (notDirectory : disk.item? target ≠ some .directory)
    (ready : disk.parentReady target = .ok ()) :
    ∃ after, disk.effect (.rename source target) = .ok after := by
  refine ⟨(disk.erase source).put target (.file content), ?_⟩
  cases there : disk.item? target with
  | none => simp [effect, held, there, ready, Except.map]
  | some item =>
      cases item with
      | directory => exact absurd there notDirectory
      | file old => simp [effect, held, there]

/-- A step that can be taken goes before the others. -/
theorem performAll_cons_of_effect
    {disk : Disk}
    (reliable : disk.Reliable)
    {step : Step}
    (possible : ∃ after,
      { disk with clock := disk.clock + 1 }.effect step = .ok after)
    {keeps : Disk → Prop}
    {steps : List Step}
    (rest : ∀ between, between.Reliable →
      disk.perform step = (between, .ok ()) →
      ∃ after, between.performAll steps = (after, .ok ()) ∧ keeps after) :
    ∃ after, disk.performAll (step :: steps) = (after, .ok ()) ∧
      keeps after := by
  obtain ⟨between, done⟩ := perform_of_effect reliable possible
  have single : disk.performAll [step] = (between, .ok ()) := by
    rw [performAll, done]; rfl
  obtain ⟨after, finished, kept⟩ :=
    rest between (reliable.of_performAll single) done
  exact ⟨after, by rw [performAll, done]; exact finished, kept⟩

/-- The scratch file of a replacement is prepared, if no step fails. -/
theorem prepare_of_ready
    {disk : Disk}
    (reliable : disk.Reliable)
    {scratch : Location}
    (notDirectory : disk.item? scratch ≠ some .directory)
    (ready : disk.parentReady scratch = .ok ())
    (content : Bytes) :
    ∃ after, disk.performAll (prepareSteps scratch content) = (after, .ok ()) ∧
      after.item? scratch = some (.file content) := by
  refine performAll_cons_of_effect reliable (effect_create notDirectory ready)
    fun created reliable createDone => ?_
  have blank := item?_create (effect_of_perform_ok createDone)
  refine performAll_cons_of_effect reliable
    ⟨_, by simp only [effect, item?_clock, blank]; rfl⟩
    fun written reliable writeDone => ?_
  have full :=
    item?_write (by simpa using blank) (effect_of_perform_ok writeDone)
  refine performAll_cons_of_effect reliable
    ⟨_, by simp [effect, has, full]; rfl⟩ fun synced _ syncDone =>
      ⟨synced, rfl, ?_⟩
  have same := item?_perform written
    (show scratch ∉ (Step.sync scratch).touches by simp [Step.touches])
  rw [syncDone] at same
  exact same.trans full

/-- A file in a directory that stands is replaced, if no step fails. -/
theorem replace_of_stands
    {disk : Disk}
    (reliable : disk.Reliable)
    {directory : Location}
    (stands : disk.Stands directory)
    (noEnd : ∀ name ∈ directory, '\x00' ∉ name.toList)
    {scratch target : String}
    (distinct : scratch ≠ target)
    (scratchPlain : Plain scratch)
    (targetPlain : Plain target)
    (scratchFree : disk.item? (directory ++ [scratch]) ≠ some .directory)
    (targetFree : disk.item? (directory ++ [target]) ≠ some .directory)
    (content : Bytes) :
    ∃ after, disk.performAll
      (replaceSteps (directory ++ [scratch]) (directory ++ [target]) content) =
        (after, .ok ()) := by
  obtain ⟨prepared, done, held⟩ := prepare_of_ready reliable scratchFree
    (parentReady_of_stands stands noEnd scratchPlain) content
  have stillStands := stands.frame fun place present =>
    item?_prepare done (ne_of_mem_above_self present _)
  have stillFree : prepared.item? (directory ++ [target]) ≠
      some .directory := by
    rw [item?_prepare done fun same =>
      distinct (List.cons.inj (List.append_cancel_left same)).1.symm]
    exact targetFree
  have heldNow :
      { prepared with clock := prepared.clock + 1 }.item?
        (directory ++ [scratch]) =
      some (.file content) := held
  obtain ⟨after, renamed⟩ := perform_of_effect (reliable.of_performAll done)
    (effect_rename heldNow stillFree
      (parentReady_of_stands stillStands noEnd targetPlain))
  refine ⟨after, ?_⟩
  rw [show replaceSteps (directory ++ [scratch]) (directory ++ [target])
    content =
      prepareSteps (directory ++ [scratch]) content ++
        [.rename (directory ++ [scratch]) (directory ++ [target])] from rfl,
    performAll_append, done]
  simp only [performAll, renamed]

end Disk
end NameService
