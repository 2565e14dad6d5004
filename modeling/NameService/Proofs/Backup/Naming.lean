import NameService.Proofs.FilePath.Walk
import NameService.Proofs.Text.Length

/-!
# Names of images

The images of a Backup are named by their transaction ids. Different ids make
different names, no scratch file and no other file of a data directory has such
a name, and from the data directory the name of the image of a word leads to the
image.
-/

namespace NameService

/-- A scratch file is not any file whose name ends otherwise. -/
theorem Disk.nameWithExtension_ne
    {name other : String}
    (ends : other.toList.getLast? ≠ some 'p') :
    other ≠ nameWithExtension "tmp" name := by
  rintro rfl
  refine ends ?_
  rw [nameWithExtension, String.toList_ofList, List.getLast?_append]
  rfl

namespace Settings

theorem toList_backupImageName (txid : Nat) :
    (backupImageName txid).toList =
      "fsimage-".toList ++ Text.decimal txid ++ ".json".toList :=
  String.toList_ofList

/-- A name has the ends that the names of images have. -/
def NamesImage (name : String) : Prop :=
  ∃ middle, name.toList = "fsimage-".toList ++ middle ++ ".json".toList

theorem namesImage_backupImageName (txid : Nat) :
    NamesImage (backupImageName txid) :=
  ⟨Text.decimal txid, toList_backupImageName txid⟩

theorem NamesImage.getLast?_eq {name : String} (isImage : NamesImage name) :
    name.toList.getLast? = some 'n' := by
  obtain ⟨middle, chars⟩ := isImage
  rw [chars, List.getLast?_append]
  rfl

/-- A file whose name ends otherwise has none of these names. -/
theorem NamesImage.ne
    {name other : String}
    (isImage : NamesImage name)
    (ends : other.toList.getLast? ≠ some 'n') :
    name ≠ other := by
  rintro rfl
  exact ends isImage.getLast?_eq

theorem getLast?_backupImageName (txid : Nat) :
    (backupImageName txid).toList.getLast? = some 'n' :=
  (namesImage_backupImageName txid).getLast?_eq

/-- The images of two transaction ids have different names. -/
theorem backupImageName_injective {left right : Nat}
    (same : backupImageName left = backupImageName right) :
    left = right := by
  have chars := congrArg String.toList same
  rw [toList_backupImageName, toList_backupImageName] at chars
  exact Text.decimal_injective
    (List.append_cancel_left (List.append_cancel_right chars))

/-- No character of the name of an image stands for anything in a path or on a
line. -/
theorem mem_backupImageName
    {txid : Nat}
    {c : Char}
    (present : c ∈ (backupImageName txid).toList) :
    c.isDigit = true ∨ c ∈ "fsimage-.json".toList := by
  rw [toList_backupImageName, List.mem_append, List.mem_append] at present
  rcases present with (inFront | digit) | inEnding
  · exact .inr
      (List.mem_of_mem_take
        (show c ∈ "fsimage-.json".toList.take 8 from inFront))
  · exact .inl (Text.isDigit_of_mem_decimal digit)
  · exact .inr
      (List.mem_of_mem_drop
        (show c ∈ "fsimage-.json".toList.drop 8 from inEnding))

/-- How many bytes the name of an image has at most. -/
def imageNameLength : Nat := 33

/-- The name of the image of a word is that short. -/
theorem utf8ByteSize_backupImageName {txid : Nat} (word : txid ≤ Word.max) :
    (backupImageName txid).utf8ByteSize ≤ imageNameLength := by
  have digits := Text.utf8Len_decimal_le word
  have size : (backupImageName txid).utf8ByteSize =
      String.utf8Len
        ("fsimage-".toList ++ Text.decimal txid ++ ".json".toList) :=
    String.utf8ByteSize_ofList _
  have front : String.utf8Len "fsimage-".toList = 8 := rfl
  have ending : String.utf8Len ".json".toList = 5 := rfl
  rw [size, String.utf8Len_append, String.utf8Len_append, front, ending,
    imageNameLength]
  rw [Text.wordLength] at digits
  omega

/-- A file whose name ends otherwise is no image. -/
theorem backupImageName_ne
    {name : String}
    (ends : name.toList.getLast? ≠ some 'n')
    (txid : Nat) :
    backupImageName txid ≠ name :=
  (namesImage_backupImageName txid).ne ends

/-- The file of the checkpoint is no image. -/
theorem backupImageName_ne_checkpointInfoName (txid : Nat) :
    backupImageName txid ≠ checkpointInfoName :=
  backupImageName_ne (by decide) txid

/-- The name of the image of a word leads to the image. -/
theorem Direct.resolve_backupImageName
    {settings : Settings}
    {disk : Disk}
    (direct : settings.Direct disk imageNameLength)
    {txid : Nat}
    (word : txid ≤ Word.max) :
    settings.resolve disk (backupImageName txid) =
      settings.backupImageLocation txid := by
  refine direct.resolve_eq (fun present => ?_) ?_ ?_
    (utf8ByteSize_backupImageName word)
  · rcases mem_backupImageName present with digit | other
    · revert digit
      decide
    · revert other
      decide
  · simp only [FilePath.isIdle, Bool.or_eq_false_iff, beq_eq_false_iff_ne]
    exact ⟨backupImageName_ne (by decide) txid,
      backupImageName_ne (by decide) txid⟩
  · exact backupImageName_ne (by decide) txid

end Settings

end NameService
