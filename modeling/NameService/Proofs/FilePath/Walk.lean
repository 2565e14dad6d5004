import Mathlib.Data.List.Infix
import NameService.Proofs.Disk.Directories
import NameService.Proofs.Text.Split
import NameService.Settings

/-!
# Walks into a data directory

A path that passes only through directories leads where its names alone lead. So
a name in a data directory leads to the file of that name, if the path of the
directory leaves room for the name.
-/

namespace NameService

/-- What a location starts with is a directory above it, or the location. -/
theorem Disk.mem_above_of_prefix
    {place location : Location}
    (above_ : place <+: location) :
    place ∈ above location ++ [location] := by
  induction location generalizing place with
  | nil => simp [List.prefix_nil.mp above_, above]
  | cons name rest hypothesis =>
      cases place with
      | nil => simp [above]
      | cons first tail =>
          obtain ⟨rfl, below⟩ := List.cons_prefix_cons.mp above_
          rcases List.mem_append.mp (hypothesis below) with higher | own
          · simp [above, higher]
          · simp [List.mem_singleton.mp own]

namespace FilePath

variable {disk : Disk} {place : Location} {front : List String}

/-- Without steps up a walk by names leads down. -/
theorem prefix_foldl_move (noUp : ".." ∉ front) (place : Location) :
    place <+: front.foldl move place := by
  induction front generalizing place with
  | nil => exact List.prefix_rfl
  | cons part front hypothesis =>
      obtain ⟨own, others⟩ := not_or.mp (mt List.mem_cons.mpr noUp)
      have next : place <+: move place part := by
        unfold move
        split
        · exact List.prefix_rfl
        · rw [if_neg (Ne.symm own)]
          exact List.prefix_append _ _
      exact next.trans (hypothesis others (move place part))

/-- A walk through directories that stand leads where the names lead. -/
theorem walk_append
    (stand : ∀ passed, passed <+: front →
      disk.hasDirectory (passed.foldl move place) = true) (rest : List String) :
    walk disk place (front ++ rest) =
      walk disk (front.foldl move place) rest := by
  induction front generalizing place with
  | nil => rfl
  | cons part front hypothesis =>
      have own : disk.hasDirectory place = true := stand [] (List.nil_prefix)
      rw [List.cons_append, walk, own]
      simp only [Bool.not_true, Bool.and_false, Bool.false_eq_true, if_false]
      exact hypothesis fun passed before =>
        stand (part :: passed) (List.cons_prefix_cons.mpr ⟨rfl, before⟩)

/-- The last name of a walk is looked up where the walk has led. -/
theorem walk_name
    {name : String}
    (entry : isIdle name = false)
    (notUp : name ≠ "..") :
    walk disk place [name] = place ++ [name] := by
  simp [walk, move, entry, notUp]

/-- A path is absolute whatever stands behind it, unless it is empty. -/
theorem isAbsolute_append
    {path : String}
    (nonempty : path.toList ≠ [])
    (rest : String) :
    isAbsolute (path ++ rest) = isAbsolute path := by
  obtain ⟨c, others, isPath⟩ := List.exists_cons_of_ne_nil nonempty
  simp [isAbsolute, isPath]

/-- The parts of a path that goes on behind a slash. -/
theorem parts_append_slash (path rest : String) :
    parts (path ++ "/" ++ rest) = parts path ++ parts rest := by
  have chars : (path ++ "/" ++ rest).toList =
      path.toList ++ '/' :: rest.toList := by simp
  rw [parts, chars, Text.split_append _ rfl, List.map_append]
  rfl

/-- A name without a slash is one part. -/
theorem parts_name {name : String} (whole : '/' ∉ name.toList) :
    parts name = [name] := by
  have noCut : ∀ c ∈ name.toList, (c == '/') = false := fun c present =>
    beq_false_of_ne fun same => whole (same ▸ present)
  rw [parts, Text.split_of_whole noCut]
  simp

/-- A directory is a path in front of a slash, with the slash or without. -/
def Fronts (directory front : String) : Prop :=
  directory = front ∧ front.toList ≠ [] ∨ directory = front ++ "/"

/-- A name that is joined to a directory stands behind a slash, or alone. -/
theorem join_cases
    (directory : String)
    {name : String}
    (relative : isAbsolute name = false) :
    directory = "" ∧ join directory name = name ∨
      ∃ front, Fronts directory front ∧
      join directory name = front ++ "/" ++ name := by
  rw [join, relative]
  simp only [Bool.false_eq_true, if_false]
  rcases List.eq_nil_or_concat directory.toList with
    empty | ⟨front, last, isDirectory⟩
  · have isEmpty : directory = "" := String.toList_eq_nil_iff.mp empty
    exact .inl ⟨isEmpty, by simp [isEmpty]⟩
  · right
    by_cases slash : last = '/'
    · have same : directory = String.ofList front ++ "/" := by
        refine String.toList_injective ?_
        simp [isDirectory, slash]
      exact ⟨String.ofList front, .inr same, by simp [same]⟩
    · exact ⟨directory, .inl ⟨rfl, by simp [isDirectory]⟩,
        by simp [isDirectory, slash]⟩

variable {directory path : String}

/-- What is joined to a directory starts where the directory does. -/
theorem Fronts.start_eq (fronts : Fronts directory path) (name : String) :
    start (path ++ "/" ++ name) = start directory := by
  have nonempty : (path ++ "/").toList ≠ [] := by simp
  rw [start, isAbsolute_append nonempty]
  rcases fronts with ⟨rfl, own⟩ | rfl
  · rw [isAbsolute_append own]
    rfl
  · rfl

/-- A slash at the end of a directory leads nowhere. -/
theorem Fronts.parts_eq (fronts : Fronts directory path) :
    ∃ idle, parts directory = parts path ++ idle ∧
      ∀ place, idle.foldl move place = place := by
  rcases fronts with ⟨rfl, -⟩ | rfl
  · exact ⟨[], (List.append_nil _).symm, fun _ => rfl⟩
  · have split := parts_append_slash path ""
    rw [String.append_empty] at split
    exact ⟨[""], split, fun _ => rfl⟩

end FilePath

namespace Settings

/-- The path of a data directory passes only through directories, and leaves
room for so many bytes of a name. -/
structure Direct (settings : Settings) (disk : Disk) (length : Nat) : Prop where
  passes : ∀ passed ∈ (FilePath.parts settings.dataDirectory).inits,
    disk.hasDirectory
      (passed.foldl FilePath.move (FilePath.start settings.dataDirectory)) =
      true
  room : settings.dataDirectory.utf8ByteSize + length < FilePath.maxLength

variable {settings : Settings} {disk : Disk} {length : Nat}

/-- A path without steps up is direct once the data directory stands. -/
theorem direct_of_noUp
    (stands : disk.Stands settings.home)
    (noUp : ".." ∉ FilePath.parts settings.dataDirectory)
    (room : settings.dataDirectory.utf8ByteSize + length < FilePath.maxLength) :
    settings.Direct disk length := by
  refine ⟨fun passed before => stands _ (Disk.mem_above_of_prefix ?_), room⟩
  obtain ⟨behind, whole⟩ := (List.mem_inits _ _).mp before
  rw [home, FilePath.location, ← whole, List.foldl_append]
  exact FilePath.prefix_foldl_move (fun present =>
    noUp (whole ▸ List.mem_append_right _ present)) _

/-- A path stays direct as long as directories stay. -/
theorem Direct.retained
    (direct : settings.Direct disk length)
    {after : Disk}
    (retains : disk.Retains after) :
    settings.Direct after length :=
  ⟨fun passed before => retains _ (direct.passes passed before), direct.room⟩

/-- A name in a data directory leads to the file of that name. -/
theorem Direct.resolve_eq
    (direct : settings.Direct disk length)
    {name : String}
    (whole : '/' ∉ name.toList)
    (entry : FilePath.isIdle name = false)
    (notUp : name ≠ "..")
    (fits : name.utf8ByteSize ≤ length) :
    settings.resolve disk name = settings.home ++ [name] := by
  have room := direct.room
  have relative : FilePath.isAbsolute name = false :=
    beq_false_of_ne fun isSlash => whole (List.mem_of_mem_head? isSlash)
  rw [resolve, path, FilePath.resolve]
  rcases FilePath.join_cases settings.dataDirectory relative with
    ⟨empty, joined⟩ | ⟨front, fronts, joined⟩
  · rw [joined, if_neg (by omega), FilePath.parts_name whole,
      FilePath.walk_name entry notUp, FilePath.start, relative, home, empty]
    rfl
  · have short : ¬ FilePath.maxLength <
        (front ++ "/" ++ name).utf8ByteSize := by
      have slash : ("/" : String).utf8ByteSize = 1 := by decide
      rcases fronts with ⟨same, -⟩ | same <;> rw [same] at room <;>
        simp only [String.utf8ByteSize_append, slash] at room ⊢ <;> omega
    obtain ⟨idle, parts, stays⟩ := fronts.parts_eq
    have leads : settings.home =
        (FilePath.parts front).foldl FilePath.move
          (FilePath.start settings.dataDirectory) := by
      rw [home, FilePath.location, parts, List.foldl_append, stays]
    have stand : ∀ passed, passed <+: FilePath.parts front → disk.hasDirectory
        (passed.foldl FilePath.move (FilePath.start settings.dataDirectory)) =
        true := by
      intro passed before
      refine direct.passes passed ((List.mem_inits _ _).mpr ?_)
      exact parts ▸ before.trans (List.prefix_append _ _)
    rw [joined, if_neg short, FilePath.parts_append_slash,
      FilePath.parts_name whole, fronts.start_eq, FilePath.walk_append stand,
      FilePath.walk_name entry notUp, leads]

end Settings
end NameService
