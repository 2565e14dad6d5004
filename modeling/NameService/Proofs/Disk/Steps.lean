import Mathlib.Tactic.Common
import NameService.Disk

/-!
# What a step leaves alone

A step touches one or two locations, and whether it succeeds, fails or is cut
short, everything else stays as it was. A file that is replaced holds the new
content if all steps succeed, and is as it was if one fails.
-/

namespace NameService
namespace Disk

/-! ## Locations after a change -/

@[simp] theorem item?_of_isLandmark
    {location : Location}
    (landmark : location.isLandmark = true)
    (disk : Disk) :
    disk.item? location = some .directory := by
  simp [item?, landmark]

/-- Where no directory stands, no landmark does. -/
theorem isLandmark_eq_false_of_item?_ne
    {disk : Disk}
    {location : Location}
    (notDirectory : disk.item? location ≠ some .directory) :
    location.isLandmark = false := by
  cases landmark : location.isLandmark with
  | false => rfl
  | true => exact absurd (item?_of_isLandmark landmark disk) notDirectory

/-- Looking up a key that a filter keeps does not see the filter. -/
theorem lookup_filter_of_keeps
    (keeps : Location → Bool)
    {entries : List (Location × Item)}
    {place : Location}
    (kept : keeps place = true) :
    (entries.filter fun entry => keeps entry.1).lookup place =
      entries.lookup place := by
  induction entries with
  | nil => rfl
  | cons entry entries hypothesis =>
      obtain ⟨key, item⟩ := entry
      by_cases same : place = key
      · subst same
        simp [kept]
      · have other : (place == key) = false := beq_false_of_ne same
        by_cases keyKept : keeps key = true <;>
          simp [keyKept, List.lookup_cons, other, hypothesis]

/-- Looking up a key that a filter drops finds nothing. -/
theorem lookup_filter_of_drops
    (keeps : Location → Bool)
    {entries : List (Location × Item)}
    {place : Location}
    (dropped : keeps place = false) :
    (entries.filter fun entry => keeps entry.1).lookup place = none := by
  induction entries with
  | nil => rfl
  | cons entry entries hypothesis =>
      obtain ⟨key, item⟩ := entry
      by_cases keyKept : keeps key = true
      · have other : (place == key) = false := by
          refine beq_false_of_ne ?_
          rintro rfl
          simp [dropped] at keyKept
        simp [keyKept, List.lookup_cons, other, hypothesis]
      · simp [keyKept, hypothesis]

theorem item?_put_self
    {location : Location}
    (inside : location.isLandmark = false)
    (disk : Disk)
    (item : Item) :
    (disk.put location item).item? location = some item := by
  simp [item?, inside, put]

theorem item?_put_of_ne
    {location place : Location}
    (other : place ≠ location)
    (disk : Disk)
    (item : Item) :
    (disk.put location item).item? place = disk.item? place := by
  have elsewhere : (place == location) = false := beq_false_of_ne other
  simp only [item?, put, List.lookup_cons, elsewhere]
  rw [lookup_filter_of_keeps (fun key => key != location)
    (by simpa using other)]

theorem item?_erase_self
    {location : Location}
    (inside : location.isLandmark = false)
    (disk : Disk) :
    (disk.erase location).item? location = none := by
  simp only [item?, inside, Bool.false_eq_true, if_false, erase]
  exact lookup_filter_of_drops (fun key => key != location) (by simp)

theorem item?_erase_of_ne
    {location place : Location}
    (other : place ≠ location)
    (disk : Disk) :
    (disk.erase location).item? place = disk.item? place := by
  simp only [item?, erase]
  rw [lookup_filter_of_keeps (fun key => key != location)
    (by simpa using other)]

/-! ## Single steps -/

/-- The locations that a step may change. -/
def Step.touches : Step → List Location
  | .makeDirectory location => [location]
  | .create location => [location]
  | .write location _ => [location]
  | .sync _ => []
  | .rename source target => [source, target]
  | .remove location => [location]

/-- What a step that succeeds found, and what it made of the disk. -/
def Step.Makes (disk after : Disk) : Step → Prop
  | .makeDirectory location =>
      disk.item? location ≠ some .directory ∧
        after = disk.put location .directory
  | .create location =>
      disk.item? location ≠ some .directory ∧
        after = disk.put location (.file [])
  | .write location content =>
      ∃ old, disk.item? location = some (.file old) ∧
        after = disk.put location (.file (content ++ old.drop content.length))
  | .sync _ => after = disk
  | .rename source target =>
      ∃ content, disk.item? source = some (.file content) ∧
        disk.item? target ≠ some .directory ∧
        after = (disk.erase source).put target (.file content)
  | .remove location =>
      ∃ content, disk.item? location = some (.file content) ∧
        after = disk.erase location

/-- A step that succeeds makes what it is for. -/
theorem makes_of_effect
    {disk after : Disk}
    {step : Step}
    (done : disk.effect step = .ok after) :
    step.Makes disk after := by
  have ready {location : Location} {made : Disk}
      (readied : (disk.parentReady location).map (fun _ => made) = .ok after) :
      after = made := by
    cases answer : disk.parentReady location with
    | error error => simp [answer, Except.map] at readied
    | ok _ => simpa [answer, Except.map, eq_comm] using readied
  cases step with
  | makeDirectory location =>
      simp only [effect] at done
      split at done
      · cases done
      · rename_i missing
        refine ⟨fun isDirectory => missing ?_, ready done⟩
        simp [has, isDirectory]
  | create location =>
      simp only [effect] at done
      split at done
      · cases done
      · rename_i held
        injection done with same
        exact ⟨by simp [held], same.symm⟩
      · rename_i missing
        exact ⟨by simp [missing], ready done⟩
  | write location content =>
      simp only [effect] at done
      split at done
      · cases done
      · rename_i old held
        injection done with same
        exact ⟨old, held, same.symm⟩
      · cases done
  | sync location =>
      simp only [effect] at done
      split at done
      · injection done with same
        exact same.symm
      · cases done
  | rename source target =>
      simp only [effect] at done
      split at done
      · rename_i content held
        split at done
        · cases done
        · rename_i old there
          injection done with same
          exact ⟨content, held, by simp [there], same.symm⟩
        · rename_i missing
          exact ⟨content, held, by simp [missing], ready done⟩
      · cases done
      · cases done
  | remove location =>
      simp only [effect] at done
      split at done
      · rename_i content held
        injection done with same
        exact ⟨content, held, same.symm⟩
      · cases done
      · cases done

/-- A step that succeeds changes only what it touches. -/
theorem item?_effect
    {disk after : Disk}
    {step : Step}
    (done : disk.effect step = .ok after)
    {place : Location}
    (untouched : place ∉ step.touches) :
    after.item? place = disk.item? place := by
  have makes := makes_of_effect done
  cases step with
  | makeDirectory location =>
      obtain ⟨-, rfl⟩ := makes
      exact item?_put_of_ne (by simpa [Step.touches] using untouched) disk _
  | create location =>
      obtain ⟨-, rfl⟩ := makes
      exact item?_put_of_ne (by simpa [Step.touches] using untouched) disk _
  | write location content =>
      obtain ⟨old, -, rfl⟩ := makes
      exact item?_put_of_ne (by simpa [Step.touches] using untouched) disk _
  | sync location =>
      obtain rfl : after = disk := makes
      rfl
  | rename source target =>
      obtain ⟨notSource, notTarget⟩ : place ≠ source ∧ place ≠ target := by
        simpa [Step.touches] using untouched
      obtain ⟨content, -, -, rfl⟩ := makes
      rw [item?_put_of_ne notTarget, item?_erase_of_ne notSource]
  | remove location =>
      obtain ⟨content, -, rfl⟩ := makes
      exact item?_erase_of_ne (by simpa [Step.touches] using untouched) disk

/-- A step leaves the schedule of failures. -/
theorem failures_effect
    {disk after : Disk}
    {step : Step}
    (done : disk.effect step = .ok after) :
    after.failures = disk.failures := by
  have makes := makes_of_effect done
  cases step with
  | makeDirectory location => rw [makes.2]; rfl
  | create location => rw [makes.2]; rfl
  | write location content =>
      obtain ⟨old, -, rfl⟩ := makes
      rfl
  | sync location => rw [show after = disk from makes]
  | rename source target =>
      obtain ⟨content, -, -, rfl⟩ := makes
      rfl
  | remove location =>
      obtain ⟨content, -, rfl⟩ := makes
      rfl

/-- A step that succeeds had its effect. -/
theorem effect_of_perform_ok
    {disk after : Disk}
    {step : Step}
    (done : disk.perform step = (after, .ok ())) :
    { disk with clock := disk.clock + 1 }.effect step = .ok after := by
  simp only [perform] at done
  split at done
  · cases done
  · split at done
    · rename_i disk' effected
      obtain ⟨rfl, -⟩ := Prod.mk.inj done
      exact effected
    · cases done

/-! ## Several steps -/

/-- What steps of a kind keep is kept by a step of that kind, whether it
succeeds, fails or is cut short. -/
theorem perform_induction
    (allows : Step → Prop)
    (keeps : Disk → Prop)
    (shortens : ∀ location content written,
      allows (.write location content) →
        allows (.write location (content.take written)))
    (clock : ∀ disk clock, keeps disk → keeps { disk with clock := clock })
    (effect : ∀ disk after step,
      allows step → disk.effect step = .ok after → keeps disk → keeps after)
    {disk : Disk}
    (kept : keeps disk)
    {step : Step}
    (allowed : allows step) :
    keeps (disk.perform step).1 := by
  simp only [perform]
  split
  · cases step with
    | write location content =>
        simp only [cutShort]
        split
        · rename_i after done
          exact effect _ after _ (shortens location content _ allowed) done
            (clock disk _ kept)
        · exact clock disk _ kept
    | _ => exact clock disk _ kept
  · split
    · rename_i after done
      exact effect _ after step allowed done (clock disk _ kept)
    · exact clock disk _ kept

/-- What steps of a kind keep is kept by any number of them. -/
theorem performAll_induction
    (allows : Step → Prop)
    (keeps : Disk → Prop)
    (shortens : ∀ location content written,
      allows (.write location content) →
        allows (.write location (content.take written)))
    (clock : ∀ disk clock, keeps disk → keeps { disk with clock := clock })
    (effect : ∀ disk after step,
      allows step → disk.effect step = .ok after → keeps disk → keeps after)
    {disk : Disk}
    (kept : keeps disk)
    {steps : List Step}
    (allowed : ∀ step ∈ steps, allows step) :
    keeps (disk.performAll steps).1 := by
  induction steps generalizing disk with
  | nil => exact kept
  | cons step steps hypothesis =>
      obtain ⟨first, behind⟩ := List.forall_mem_cons.mp allowed
      have one :=
        perform_induction allows keeps shortens clock effect kept first
      rw [performAll]
      split
      · rename_i after done
        rw [done] at one
        exact hypothesis one behind
      · rename_i after error failed
        rwa [failed] at one

/-- A step changes only what it touches, whether it succeeds or not. -/
theorem item?_perform
    (disk : Disk)
    {step : Step}
    {place : Location}
    (untouched : place ∉ step.touches) :
    (disk.perform step).1.item? place = disk.item? place :=
  perform_induction (fun step => place ∉ step.touches)
    (fun after => after.item? place = disk.item? place)
    (fun _ _ _ allowed => allowed) (fun _ _ kept => kept)
    (fun _ _ _ allowed done kept => (item?_effect done allowed).trans kept)
      rfl untouched

/-- Steps change only what they touch. -/
theorem item?_performAll
    (disk : Disk)
    {steps : List Step}
    {place : Location}
    (untouched : ∀ step ∈ steps, place ∉ step.touches) :
    (disk.performAll steps).1.item? place = disk.item? place :=
  performAll_induction (fun step => place ∉ step.touches)
    (fun after => after.item? place = disk.item? place)
    (fun _ _ _ allowed => allowed) (fun _ _ kept => kept)
    (fun _ _ _ allowed done kept => (item?_effect done allowed).trans kept)
      rfl untouched

/-- A step leaves the schedule of failures, whether it succeeds or not. -/
theorem failures_perform (disk : Disk) (step : Step) :
    (disk.perform step).1.failures = disk.failures :=
  perform_induction (fun _ => True)
    (fun after => after.failures = disk.failures) (fun _ _ _ _ => trivial)
    (fun _ _ kept => kept)
      (fun _ _ _ _ done kept => (failures_effect done).trans kept) rfl trivial

/-- What every step keeps is kept by any number of them. -/
theorem performAll_keeps
    {keeps : Disk → Prop}
    (perform : ∀ disk step, keeps disk → keeps (disk.perform step).1)
    {disk : Disk}
    (kept : keeps disk)
    (steps : List Step) :
    keeps (disk.performAll steps).1 := by
  induction steps generalizing disk with
  | nil => exact kept
  | cons step steps hypothesis =>
      have one := perform disk step kept
      rw [performAll]
      split
      · rename_i after done
        rw [done] at one
        exact hypothesis one
      · rename_i after error failed
        rwa [failed] at one

/-- Steps leave the schedule of failures. -/
theorem failures_performAll (disk : Disk) (steps : List Step) :
    (disk.performAll steps).1.failures = disk.failures :=
  performAll_keeps
    (fun after step kept => (failures_perform after step).trans kept) rfl steps

/-- Only making a directory makes one. -/
theorem not_directory_effect
    {disk after : Disk}
    {step : Step}
    (noDirectory : ∀ location, step ≠ .makeDirectory location)
    (done : disk.effect step = .ok after)
    {place : Location}
    (notDirectory : disk.item? place ≠ some .directory) :
    after.item? place ≠ some .directory := by
  have inside := isLandmark_eq_false_of_item?_ne notDirectory
  have putFile (disk : Disk) (location : Location) (content : Bytes)
      (notDirectory : disk.item? place ≠ some .directory) :
      (disk.put location (.file content)).item? place ≠ some .directory := by
    by_cases same : place = location
    · subst same
      simp [item?_put_self inside]
    · rwa [item?_put_of_ne same]
  have erased (location : Location) : (disk.erase location).item? place ≠
      some .directory := by
    by_cases same : place = location
    · subst same
      simp [item?_erase_self inside]
    · rwa [item?_erase_of_ne same]
  have makes := makes_of_effect done
  cases step with
  | makeDirectory location => exact absurd rfl (noDirectory location)
  | create location =>
      obtain ⟨-, rfl⟩ := makes
      exact putFile _ _ _ notDirectory
  | write location content =>
      obtain ⟨old, -, rfl⟩ := makes
      exact putFile _ _ _ notDirectory
  | sync location => rwa [show after = disk from makes]
  | rename source target =>
      obtain ⟨content, -, -, rfl⟩ := makes
      exact putFile _ _ _ (erased source)
  | remove location =>
      obtain ⟨content, -, rfl⟩ := makes
      exact erased location

theorem not_directory_performAll
    {disk : Disk}
    {steps : List Step}
    (noDirectory : ∀ step ∈ steps, ∀ location, step ≠ .makeDirectory location)
    {place : Location}
    (notDirectory : disk.item? place ≠ some .directory) :
    (disk.performAll steps).1.item? place ≠ some .directory :=
  performAll_induction (fun step => ∀ location, step ≠ .makeDirectory location)
    (fun after => after.item? place ≠ some .directory)
    (fun _ _ _ _ => by simp) (fun _ _ kept => kept)
    (fun _ _ _ allowed done kept => not_directory_effect allowed done kept)
      notDirectory
    noDirectory

/-- Steps that succeed did so one after the other. -/
theorem performAll_cons_ok
    {disk after : Disk}
    {step : Step}
    {steps : List Step} :
    disk.performAll (step :: steps) = (after, .ok ()) ↔
      ∃ middle, disk.perform step = (middle, .ok ()) ∧
        middle.performAll steps = (after, .ok ()) := by
  rw [performAll]
  constructor
  · intro done
    split at done
    · rename_i middle first
      exact ⟨middle, first, done⟩
    · cases done
  · rintro ⟨middle, first, rest⟩
    rw [first]
    exact rest

/-- Steps in two parts are carried out part by part. -/
theorem performAll_append (disk : Disk) (front back : List Step) :
    disk.performAll (front ++ back) =
      match disk.performAll front with
      | (disk, .ok ()) => disk.performAll back
      | (disk, .error error) => (disk, .error error) := by
  induction front generalizing disk with
  | nil => rfl
  | cons step front hypothesis =>
      rw [List.cons_append, performAll, performAll]
      cases outcome : disk.perform step with
      | mk after answer =>
          cases answer with
          | ok _ => exact hypothesis after
          | error error => rfl

/-! ## Replacing a file -/

theorem item?_create
    {disk after : Disk}
    {location : Location}
    (done : disk.effect (.create location) = .ok after) :
    after.item? location = some (.file []) := by
  obtain ⟨notDirectory, rfl⟩ := makes_of_effect done
  exact item?_put_self (isLandmark_eq_false_of_item?_ne notDirectory) disk _

theorem item?_write
    {disk after : Disk}
    {location : Location}
    {content : Bytes}
    (blank : disk.item? location = some (.file []))
    (done : disk.effect (.write location content) = .ok after) :
    after.item? location = some (.file content) := by
  obtain ⟨old, held, rfl⟩ := makes_of_effect done
  obtain rfl : old = [] := by simpa [blank] using held.symm
  have notDirectory : disk.item? location ≠ some .directory := by simp [blank]
  rw [item?_put_self (isLandmark_eq_false_of_item?_ne notDirectory),
    List.drop_nil, List.append_nil]

theorem item?_rename
    {disk after : Disk}
    {source target : Location}
    {content : Bytes}
    (held : disk.item? source = some (.file content))
    (done : disk.effect (.rename source target) = .ok after) :
    after.item? target = some (.file content) := by
  obtain ⟨moved, there, notDirectory, rfl⟩ := makes_of_effect done
  obtain rfl : content = moved := by simpa [held] using there
  exact item?_put_self (isLandmark_eq_false_of_item?_ne notDirectory) _ _

theorem item?_remove
    {disk after : Disk}
    {location : Location}
    (done : disk.effect (.remove location) = .ok after) :
    after.item? location = none := by
  obtain ⟨content, held, rfl⟩ := makes_of_effect done
  have notDirectory : disk.item? location ≠ some .directory := by simp [held]
  exact item?_erase_self (isLandmark_eq_false_of_item?_ne notDirectory) disk

/-- What stands somewhere does not depend on the clock. -/
@[simp] theorem item?_clock (disk : Disk) (clock : Nat) (place : Location) :
    ({ disk with clock := clock }).item? place = disk.item? place := rfl

/-- A file that is replaced holds the new content. -/
theorem item?_replaced
    {disk after : Disk}
    {scratch target : Location}
    {content : Bytes}
    (done : disk.performAll (replaceSteps scratch target content) =
      (after, .ok ())) :
    after.item? target = some (.file content) := by
  obtain ⟨created, createDone, rest⟩ := performAll_cons_ok.mp done
  obtain ⟨written, writeDone, rest⟩ := performAll_cons_ok.mp rest
  obtain ⟨synced, syncDone, rest⟩ := performAll_cons_ok.mp rest
  obtain ⟨renamed, renameDone, rest⟩ := performAll_cons_ok.mp rest
  obtain ⟨rfl, -⟩ := Prod.mk.inj rest
  have blank := item?_create (effect_of_perform_ok createDone)
  have full :=
    item?_write (by simpa using blank) (effect_of_perform_ok writeDone)
  have kept : synced.item? scratch = some (.file content) := by
    have same := item?_perform written
      (show scratch ∉ (Step.sync scratch).touches by simp [Step.touches])
    rw [syncDone] at same
    exact same.trans full
  exact item?_rename (by simpa using kept) (effect_of_perform_ok renameDone)

/-- A replacement leaves alone what is neither the file nor its scratch file. -/
theorem item?_performAll_replaceSteps
    (disk : Disk)
    {scratch target place : Location}
    (content : Bytes)
    (notScratch : place ≠ scratch)
    (notTarget : place ≠ target) :
    (disk.performAll (replaceSteps scratch target content)).1.item? place =
      disk.item? place := by
  refine item?_performAll disk fun step present => ?_
  simp only [replaceSteps, List.mem_cons, List.not_mem_nil, or_false] at present
  rcases present with rfl | rfl | rfl | rfl <;>
    simp [Step.touches, notScratch, notTarget]

/-- A step that fails changes nothing but the clock, unless it is a write. -/
theorem eq_of_error
    {disk after : Disk}
    {step : Step}
    {error : FileError}
    (failed : disk.perform step = (after, .error error))
    (whole : ∀ location content, step ≠ .write location content) :
    after = { disk with clock := disk.clock + 1 } := by
  simp only [perform] at failed
  split at failed
  · obtain ⟨rfl, -⟩ := Prod.mk.inj failed
    cases step with
    | write location content => exact absurd rfl (whole location content)
    | _ => rfl
  · split at failed
    · cases failed
    · obtain ⟨rfl, -⟩ := Prod.mk.inj failed
      rfl

/-- The steps that prepare a scratch file. -/
def prepareSteps (scratch : Location) (content : Bytes) : List Step :=
  [.create scratch, .write scratch content, .sync scratch]

/-- A replacement fails before the file is moved, or ends with moving it. -/
theorem replace_cases
    {disk after : Disk}
    {scratch target : Location}
    {content : Bytes}
    {answer : Except FileError Unit}
    (outcome : disk.performAll (replaceSteps scratch target content) =
      (after, answer)) :
    (∃ error, answer = .error error ∧
        disk.performAll (prepareSteps scratch content) =
          (after, .error error)) ∨
      ∃ prepared,
        disk.performAll (prepareSteps scratch content) = (prepared, .ok ()) ∧
        prepared.perform (.rename scratch target) = (after, answer) := by
  rw [show replaceSteps scratch target content =
      prepareSteps scratch content ++ [.rename scratch target] from rfl,
    performAll_append] at outcome
  split at outcome
  · rename_i prepared done
    refine .inr ⟨prepared, done, ?_⟩
    rw [performAll] at outcome
    split at outcome
    · rename_i moved isMoved
      obtain ⟨rfl, rfl⟩ := Prod.mk.inj outcome
      exact isMoved
    · rename_i moved error failed
      obtain ⟨rfl, rfl⟩ := Prod.mk.inj outcome
      exact failed
  · rename_i stopped error failed
    obtain ⟨rfl, rfl⟩ := Prod.mk.inj outcome
    exact .inl ⟨error, rfl, failed⟩

/-- A replacement touches no other file. -/
theorem item?_of_replace
    {disk after : Disk}
    {scratch target place : Location}
    {content : Bytes}
    {answer : Except FileError Unit}
    (outcome : disk.performAll (replaceSteps scratch target content) =
      (after, answer))
    (notScratch : place ≠ scratch)
    (notTarget : place ≠ target) :
    after.item? place = disk.item? place := by
  have frame := item?_performAll_replaceSteps disk content notScratch notTarget
  rwa [outcome] at frame

/-- A replacement makes no directory. -/
theorem not_directory_of_replace
    {disk after : Disk}
    {scratch target place : Location}
    {content : Bytes}
    {answer : Except FileError Unit}
    (outcome : disk.performAll (replaceSteps scratch target content) =
      (after, answer))
    (notDirectory : disk.item? place ≠ some .directory) :
    after.item? place ≠ some .directory := by
  have files : ∀ step ∈ replaceSteps scratch target content,
      ∀ location, step ≠ .makeDirectory location := by
    simp [replaceSteps]
  have kept := not_directory_performAll files notDirectory
  rwa [outcome] at kept

/-- Preparing a scratch file touches no other file. -/
theorem item?_prepare
    {disk after : Disk}
    {scratch place : Location}
    {content : Bytes}
    {answer : Except FileError Unit}
    (outcome : disk.performAll (prepareSteps scratch content) = (after, answer))
    (notScratch : place ≠ scratch) :
    after.item? place = disk.item? place := by
  have frame := item?_performAll disk
    (show ∀ step ∈ prepareSteps scratch content, place ∉ step.touches by
      simp [prepareSteps, Step.touches, notScratch])
  rwa [outcome] at frame

/-- A replacement that fails leaves alone what is not the scratch file. -/
theorem item?_of_replace_error
    {disk after : Disk}
    {scratch target : Location}
    {content : Bytes}
    {error : FileError}
    (failed : disk.performAll (replaceSteps scratch target content) =
      (after, .error error))
    {place : Location}
    (notScratch : place ≠ scratch) :
    after.item? place = disk.item? place := by
  rcases replace_cases failed with ⟨_, -, stopped⟩ | ⟨prepared, done, notMoved⟩
  · exact item?_prepare stopped notScratch
  · rw [eq_of_error notMoved (by simp)]
    exact (item?_prepare done notScratch : prepared.item? place =
      disk.item? place)

end Disk
end NameService
