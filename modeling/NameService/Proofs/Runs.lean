/-!
# Runs

A run takes a state through a sequence of events. What every step keeps is kept
by the run, whether all steps go through or some may fail. Where a step keeps it
only if the event fits the state, the events have to fit the states that they
find on the way.
-/

namespace NameService

section

variable {State Event : Type} {step : State → Event → State}
  {fits : State → Event → Prop}

/-- Every event of a sequence fits the state that it finds. -/
def Along (step : State → Event → State) (fits : State → Event → Prop) :
    State → List Event → Prop
  | _, [] => True
  | state, event :: rest =>
      fits state event ∧ Along step fits (step state event) rest

@[simp] theorem along_nil (state : State) : Along step fits state [] := trivial

@[simp] theorem along_cons
    {state : State}
    {event : Event}
    {rest : List Event} :
    Along step fits state (event :: rest) ↔
      fits state event ∧ Along step fits (step state event) rest := Iff.rfl

instance Along.decidable [∀ state event, Decidable (fits state event)] :
    (state : State) → DecidablePred (Along step fits state)
  | _, [] => .isTrue trivial
  | state, event :: rest =>
      have := Along.decidable (step state event) rest
      decidable_of_iff _ along_cons.symm

/-- Events fit along a sequence if they do along its front, and along the rest
from where the front leads to. -/
theorem along_append
    {state : State}
    {front back : List Event} :
    Along step fits state (front ++ back) ↔
      Along step fits state front ∧
        Along step fits (front.foldl step state) back := by
  induction front generalizing state with
  | nil => simp
  | cons event rest hypothesis => simp [hypothesis, and_assoc]

/-- What every step by an event that fits keeps is kept by a run along which the
events fit. -/
theorem Along.foldl_induction
    {state : State}
    {events : List Event}
    (along : Along step fits state events)
    (holds : State → Prop)
    (keeps : ∀ {state event}, holds state → fits state event →
      holds (step state event))
    (initial : holds state) :
    holds (events.foldl step state) := by
  induction events generalizing state with
  | nil => exact initial
  | cons event rest hypothesis =>
      exact hypothesis along.2 (keeps initial along.1)

end

section

variable {State Event Cause : Type} {step : State → Event → Except Cause State}

/-- What every step of a run keeps is kept by the run. -/
theorem foldlM_induction
    {holds : State → Prop}
    {events : List Event}
    (steps : ∀ event ∈ events, ∀ state after,
      holds state → step state event = .ok after → holds after)
    {state after : State}
    (initial : holds state)
    (isRun : events.foldlM step state = .ok after) :
    holds after := by
  induction events generalizing state with
  | nil =>
      obtain rfl := Except.ok.inj isRun
      exact initial
  | cons event events hypothesis =>
      obtain ⟨own, others⟩ := List.forall_mem_cons.mp steps
      rw [List.foldlM_cons] at isRun
      cases stepped : step state event with
      | error cause =>
          rw [stepped] at isRun
          cases isRun
      | ok between =>
          rw [stepped] at isRun
          exact hypothesis others (own _ _ initial stepped) isRun

/-- A run of events goes through and keeps what every step keeps. A step makes a
state larger by one at most, and is only known to go through below a limit. -/
theorem foldlM_of_steps
    {holds : State → Prop}
    {size : State → Nat}
    {limit : Nat}
    (steps : ∀ {state}, holds state → size state < limit → ∀ event,
      ∃ after, step state event = .ok after ∧ holds after ∧
        size after ≤ size state + 1)
    {state : State}
    (initial : holds state)
    (events : List Event)
    (room : size state + events.length ≤ limit) :
    ∃ after, events.foldlM step state = .ok after ∧ holds after ∧
      size after ≤ size state + events.length := by
  induction events generalizing state with
  | nil => exact ⟨state, rfl, initial, Nat.le_refl _⟩
  | cons event events hypothesis =>
      rw [List.length_cons] at room ⊢
      obtain ⟨between, stepped, stillHolds, grown⟩ :=
        steps initial (by omega) event
      obtain ⟨after, isRun, holdsAfter, bounded⟩ :=
        hypothesis stillHolds (by omega)
      refine ⟨after, ?_, holdsAfter, by omega⟩
      rw [List.foldlM_cons, stepped]
      exact isRun

/-- A run of events goes through and keeps what the steps by these events
keep. -/
theorem foldlM_of_allowed
    {holds : State → Prop}
    {events : List Event}
    (steps : ∀ event ∈ events, ∀ state, holds state →
      ∃ after, step state event = .ok after ∧ holds after)
    {state : State}
    (initial : holds state) :
    ∃ after, events.foldlM step state = .ok after ∧ holds after := by
  induction events generalizing state with
  | nil => exact ⟨state, rfl, initial⟩
  | cons event events hypothesis =>
      obtain ⟨own, others⟩ := List.forall_mem_cons.mp steps
      obtain ⟨between, stepped, stillHolds⟩ := own state initial
      obtain ⟨after, isRun, holdsAfter⟩ := hypothesis others stillHolds
      refine ⟨after, ?_, holdsAfter⟩
      rw [List.foldlM_cons, stepped]
      exact isRun

end

end NameService
