import NameService.Proofs.Checkpoint.Line
import NameService.Proofs.Checkpoint.Store

/-!
# The persisted checkpoint of a Backup

The line of a checkpoint reads back as the checkpoint, whatever its words and
the name of its image file, as long as that name is not empty and has no blank
characters. So the checkpoint that is saved is the one that is loaded.
-/

namespace NameService
namespace Checkpoint
namespace Info

/-- A checkpoint that can be written on a line and read back. -/
structure Legible (info : Info) : Prop where
  timestampWord : info.timestamp ≤ Word.max
  txidWord : info.txid ≤ Word.max
  named : info.imageFile.toList ≠ []
  solid : ∀ c ∈ info.imageFile.toList, Text.isBlank c = false

variable {info : Info}

/-- The line of a checkpoint reads back. -/
theorem Legible.decode_encode (legible : info.Legible) :
    decode info.encode = .ok info := by
  refine (decode_encode_iff legible.timestampWord legible.txidWord).mpr
    ⟨?_, fun c isLast => ?_⟩
  · simpa using legible.named
  · exact legible.solid c (List.mem_of_getLast? isLast)

/-- The file of the checkpoint holds it, or there is none if there was no
checkpoint. -/
def Keeps (disk : Disk) (location : Location) : Option Info → Prop
  | none => disk.item? location = none
  | some info =>
      info.Legible ∧ disk.item? location = some (.file (Text.utf8 info.encode))

variable {disk : Disk} {location : Location} {kept : Option Info}

/-- A checkpoint that is kept is loaded. -/
theorem Keeps.load (keeps : Keeps disk location kept) :
    load disk location = .ok kept := by
  cases kept with
  | none =>
      have absent : disk.has location = false := by
        simp [Disk.has, show _ = none from keeps]
      rw [Info.load, absent]
      rfl
  | some info =>
      obtain ⟨legible, held⟩ := keeps
      have present : disk.has location = true := by simp [Disk.has, held]
      have read : disk.readChars location = .ok info.encode := by
        simp [Disk.readChars, Disk.read, held]
      rw [Info.load, if_pos present, read]
      simp only [legible.decode_encode]

/-- A checkpoint is kept as long as its file is left alone. -/
theorem Keeps.frame
    (keeps : Keeps disk location kept)
    {after : Disk}
    (same : after.item? location = disk.item? location) :
    Keeps after location kept := by
  cases kept with
  | none => exact same.trans keeps
  | some info => exact ⟨keeps.1, same.trans keeps.2⟩

end Info
end Checkpoint
end NameService
