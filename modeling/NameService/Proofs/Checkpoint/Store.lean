import NameService.Checkpoint
import NameService.Proofs.Disk.Directories
import NameService.Proofs.Text.Decimal
import NameService.Proofs.Text.Trim
import NameService.Proofs.Text.Utf8

/-!
# The persisted checkpoint id

The checkpoint id that is saved is the one that is loaded, and without a file it
is zero.
-/

namespace NameService

namespace Checkpoint
namespace Store

variable {store : Store} {disk : Disk}

/-- The file of a checkpoint id holds it, or there is none for zero. -/
def Keeps (store : Store) (disk : Disk) (txid : Nat) : Prop :=
  disk.item? store.location = some (.file (Text.utf8 (Text.decimal txid))) ∨
    disk.item? store.location = none ∧ txid = 0

/-- A checkpoint id that is kept is loaded. -/
theorem Keeps.load
    {txid : Nat}
    (keeps : store.Keeps disk txid)
    (word : txid ≤ Word.max) :
    store.load disk = .ok txid := by
  rcases keeps with held | ⟨missing, rfl⟩
  · have present : disk.has store.location = true := by simp [Disk.has, held]
    have read : disk.readChars store.location = .ok (Text.decimal txid) := by
      simp [Disk.readChars, Disk.read, held]
    rw [Store.load, if_pos present, read]
    simp only
    rw [Text.trim_of_no_blank fun c digit =>
        Text.isBlank_of_isDigit (Text.isDigit_of_mem_decimal digit),
      Text.readDecimal_decimal word]
    rfl
  · have absent : disk.has store.location = false := by simp [Disk.has, missing]
    rw [Store.load, absent]
    rfl

/-- The checkpoint id that is loaded is a word. -/
theorem load_le {txid : Nat} (loaded : store.load disk = .ok txid) :
    txid ≤ Word.max := by
  unfold load at loaded
  split at loaded
  · split at loaded
    · cases loaded
    · rename_i text _
      cases isRead : Text.readDecimal (Text.trim text) with
      | error cause =>
          rw [isRead] at loaded
          cases loaded
      | ok number =>
          rw [isRead] at loaded
          obtain rfl := Except.ok.inj loaded
          exact Text.readDecimal_le isRead
  · obtain rfl := Except.ok.inj loaded
    exact Nat.zero_le _

/-- Only the file of the checkpoint id makes a difference to what is loaded. -/
theorem load_congr
    {after : Disk}
    (same : after.item? store.location = disk.item? store.location) :
    store.load after = store.load disk := by
  cases held : disk.item? store.location with
  | none => simp [load, Disk.has, same, held]
  | some item => cases item <;>
    simp [load, Disk.has, Disk.readChars, Disk.read, same, held]

/-- A file that is not a directory may be replaced by a checkpoint id. -/
theorem Keeps.notDirectory {txid : Nat} (keeps : store.Keeps disk txid) :
    disk.item? store.location ≠ some .directory := by
  rcases keeps with held | ⟨missing, -⟩
  · simp [held]
  · simp [missing]

/-- A checkpoint id that is saved is kept. -/
theorem keeps_of_save
    {after : Disk}
    {txid : Nat}
    (saved : store.save disk txid = (after, .ok ())) :
    store.Keeps after txid :=
  .inl (Disk.item?_replaced saved)

/-- Saving a checkpoint id that is kept already keeps it, even if it fails. -/
theorem Keeps.save
    {txid : Nat}
    (keeps : store.Keeps disk txid)
    (scratchElsewhere : store.location ≠ Disk.scratch store.location) :
    store.Keeps (store.save disk txid).1 txid := by
  cases outcome : store.save disk txid with
  | mk after answer =>
      cases answer with
      | ok _ => exact keeps_of_save outcome
      | error error =>
          have same := Disk.item?_of_replace_error outcome scratchElsewhere
          rw [Keeps, same]
          exact keeps

end Store
end Checkpoint
end NameService
