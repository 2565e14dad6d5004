import NameService.Disk

/-!
# Outcomes

What an operation that works on the disk leaves behind. An operation that fails
may still have changed the disk and the state, so both stand beside the answer.
-/

namespace NameService

/-- The disk, the state and the answer that an operation leaves behind. -/
structure Outcome (σ ε α : Type) where
  disk : Disk
  state : σ
  answer : Except ε α

namespace Outcome

/-- The same outcome with another answer. -/
def mapAnswer (outcome : Outcome σ ε α) (change : Except ε α → Except δ β) :
    Outcome σ δ β :=
  ⟨outcome.disk, outcome.state, change outcome.answer⟩

/-- The same outcome with another state. -/
def mapState (outcome : Outcome σ ε α) (change : σ → τ) : Outcome τ ε α :=
  ⟨outcome.disk, change outcome.state, outcome.answer⟩

end Outcome
end NameService
