import NameService.Json.Read

/-!
# What was read

Whatever the text, a word that was read is a word, and a structure that was read
comes from a draft that has what every one of its fields keeps.
-/

namespace NameService
namespace Json

/-- An answer that a bind gives comes from an answer of its first part. -/
theorem ok_of_bind
    {α β : Type}
    {first : Except Fault α}
    {next : α → Except Fault β}
    {value : β}
    (answered : (first >>= next) = .ok value) :
    ∃ between, first = .ok between ∧ next between = .ok value := by
  cases first with
  | error fault => cases answered
  | ok between => exact ⟨between, rfl, answered⟩

/-- An answer that is mapped comes from one. -/
theorem ok_of_map
    {α β : Type}
    {first : Except Fault α}
    {map : α → β}
    {value : β}
    (answered : first.map map = .ok value) :
    ∃ between, first = .ok between ∧ map between = value := by
  cases first with
  | error fault => cases answered
  | ok between => exact ⟨between, rfl, Except.ok.inj answered⟩

/-- Nothing is read from a value that is refused. -/
theorem refuse_ne_ok {α : Type} (text : Symbols) (value : α) :
    refuse text ≠ .ok value := by
  unfold refuse
  intro answered
  split at answered
  · cases answered
  · cases answered
  · obtain ⟨rest, -, answered⟩ := ok_of_bind answered
    cases answered

/-- A word that is read is a word. -/
theorem le_max_of_readWord
    {text rest : Symbols}
    {value : Nat}
    (isRead : readWord text = .ok (value, rest)) :
    value ≤ Word.max := by
  unfold readWord at isRead
  split at isRead
  · split at isRead
    · obtain ⟨⟨numeral, behind⟩, -, isRead⟩ := ok_of_bind isRead
      cases isWord : numeral.word? with
      | none => simp [isWord] at isRead
      | some word =>
          simp only [isWord] at isRead
          cases isRead
          unfold Numeral.word? at isWord
          split at isWord
          · cases isWord
          · simp only [Option.ite_none_right_eq_some,
              Option.some.injEq] at isWord
            exact isWord.2 ▸ isWord.1
    · exact absurd isRead (refuse_ne_ok _ _)
  · exact absurd isRead (refuse_ne_ok _ _)

variable {σ α : Type} {fields : List (Field σ)} {keeps : σ → Prop}

/-- What every field of a structure keeps is kept by each of its members. -/
theorem readMembersWith_induction
    {member : σ → String → Symbols → Except Fault (σ × Symbols)}
    (step : ∀ state key text after rest,
      keeps state → member state key text = .ok (after, rest) → keeps after)
    {fuel : Nat}
    {first : Bool}
    {state after : σ}
    {text rest : Symbols}
    (initial : keeps state)
    (isRead : readMembersWith member fuel first state text =
      .ok (after, rest)) :
    keeps after := by
  induction fuel generalizing first state text with
  | zero => cases isRead
  | succ fuel hypothesis =>
      rw [readMembersWith] at isRead
      obtain ⟨key, -, isRead⟩ := ok_of_bind isRead
      cases key with
      | none =>
          cases isRead
          exact initial
      | some text =>
          obtain ⟨⟨key, behind⟩, -, isRead⟩ := ok_of_bind isRead
          obtain ⟨⟨between, behind⟩, taken, isRead⟩ := ok_of_bind isRead
          exact hypothesis (step _ _ _ _ _ initial taken) isRead

theorem readPositions_induction
    (step : ∀ field ∈ fields, ∀ state text after rest,
      keeps state → field.read state text = .ok (after, rest) → keeps after)
    {first : Bool}
    {state after : σ}
    {text rest : Symbols}
    (initial : keeps state)
    (isRead : readPositions fields first state text = .ok (after, rest)) :
    keeps after := by
  induction fields generalizing first state text with
  | nil =>
      cases isRead
      exact initial
  | cons field fields hypothesis =>
      obtain ⟨own, others⟩ := List.forall_mem_cons.mp step
      rw [readPositions] at isRead
      obtain ⟨item, -, isRead⟩ := ok_of_bind isRead
      cases item with
      | none =>
          cases isRead
          exact initial
      | some text =>
          obtain ⟨⟨between, behind⟩, taken, isRead⟩ := ok_of_bind isRead
          exact hypothesis others (own _ _ _ _ initial taken) isRead

theorem readMember_induction
    (step : ∀ field ∈ fields, ∀ state text after rest,
      keeps state → field.read state text = .ok (after, rest) → keeps after)
    {state after : σ}
    {key : String}
    {text rest : Symbols}
    (initial : keeps state)
    (isRead : readMember fields state key text = .ok (after, rest)) :
    keeps after := by
  unfold readMember at isRead
  split at isRead
  · obtain ⟨behind, -, isRead⟩ := ok_of_bind isRead
    obtain ⟨behind, -, isRead⟩ := ok_of_bind isRead
    cases isRead
    exact initial
  · rename_i field found
    split at isRead
    · cases isRead
    · obtain ⟨behind, -, isRead⟩ := ok_of_bind isRead
      exact step field (List.mem_of_find?_eq_some found) _ _ _ _ initial isRead

/-- A structure that is read was finished from a draft that has what every field
keeps. -/
theorem readStructure_induction
    (keeps : σ → Prop)
    {draft : σ}
    {finish : σ → Option α}
    (step : ∀ field ∈ fields, ∀ state text after rest,
      keeps state → field.read state text = .ok (after, rest) → keeps after)
    (initial : keeps draft)
    {text rest : Symbols}
    {value : α}
    (isRead : readStructure fields draft finish text = .ok (value, rest)) :
    ∃ state, keeps state ∧ finish state = some value := by
  unfold readStructure at isRead
  simp only at isRead
  split at isRead
  · obtain ⟨⟨state, behind⟩, members, isRead⟩ := ok_of_bind isRead
    refine ⟨state, readMembersWith_induction ?_ initial members, ?_⟩
    · exact fun _ _ _ _ _ kept taken => readMember_induction step kept taken
    · split at isRead
      · cases isRead
      · rename_i isValue
        obtain ⟨_, -, same⟩ := ok_of_map isRead
        exact isValue.trans (congrArg some (Prod.mk.inj same).1)
  · obtain ⟨⟨state, behind⟩, members, isRead⟩ := ok_of_bind isRead
    refine ⟨state, readPositions_induction step initial members, ?_⟩
    split at isRead
    · cases isRead
    · rename_i isValue
      obtain ⟨_, -, same⟩ := ok_of_map isRead
      exact isValue.trans (congrArg some (Prod.mk.inj same).1)
  · exact absurd isRead (refuse_ne_ok _ _)

end Json
end NameService
