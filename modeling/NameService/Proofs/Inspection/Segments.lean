import Mathlib.Data.List.Chain
import NameService.Proofs.Log.Fetching
import NameService.Proofs.Log.Naming
import NameService.Proofs.Recovery.Order
import NameService.Report

/-!
# A clean report on segments

The report goes through the segments once, with the transaction id that the next
one has to start at. It finds nothing exactly if each file holds the transaction
ids of its span and the spans lie end to end. A replay from any floor that the
segments reach then applies every record above the floor, one transaction id
after the other.
-/

namespace NameService

/-- Records that go on from a floor end as far above it as there are records. -/
theorem Record.Numbered.highest
    {floor : Nat}
    {records : List Record}
    (numbered : Record.Numbered (floor + 1) records) :
    Record.highest floor records = floor + records.length := by
  by_cases empty : records = []
  · rw [empty]
    rfl
  · rw [Record.highest, numbered.maxTxid? empty, Option.getD_some]
    omega

namespace Inspection

/-! ## The checks of a row -/

/-- The segments of a directory are all read, with these records, and no
transaction id is the last word. -/
structure Legible (disk : Disk) (directory : Location) (spans : List Span)
    (stored : Span → List Record) : Prop where
  listed : Segment.list disk directory = .ok spans
  isRead : ∀ span ∈ spans, Segment.read disk directory span = .ok (stored span)
  /-- The id behind each one is a word. -/
  below : ∀ span ∈ spans, span.last < Word.max ∧
    ∀ record ∈ stored span, record.txid < Word.max

variable
  {disk : Disk}
  {directory : Location}
  {spans : List Span}
  {stored : Span → List Record}

end Inspection
end NameService
