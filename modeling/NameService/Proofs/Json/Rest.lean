import NameService.Proofs.Json.Drafts

/-!
# What readers leave

A reader takes from the head of a text: what it leaves is an end of the text,
whatever it reads or steps over.
-/

namespace NameService
namespace Json

/-! ## Lexemes -/

theorem skipSpace_suffix (text : Symbols) : skipSpace text <:+ text := by
  fun_induction skipSpace text with
  | case1 c rest isSpace hypothesis =>
      exact hypothesis.trans (List.suffix_cons _ _)
  | case2 c rest notSpace => exact List.suffix_refl _
  | case3 text => exact List.suffix_refl _

/-- What stands behind the first character that is not blank is an end of the
text. -/
theorem suffix_of_skipSpace
    {text rest : Symbols}
    {symbol : Option Char}
    (found : skipSpace text = symbol :: rest) :
    rest <:+ text :=
  (List.suffix_cons symbol rest).trans (found ▸ skipSpace_suffix text)

theorem expect_suffix
    {literal : List Char}
    {text rest : Symbols}
    (isRead : expect literal text = .ok rest) :
    rest <:+ text := by
  fun_induction expect literal text with
  | case1 text =>
      cases isRead
      exact List.suffix_refl _
  | case2 c literal text hypothesis =>
      exact (hypothesis isRead).trans (List.suffix_cons _ _)
  | case3 | case4 => cases isRead

theorem ok_of_consChar
    {c : Char}
    {result : Except Fault (List Char × Symbols)}
    {content : List Char}
    {rest : Symbols}
    (isRead : consChar c result = .ok (content, rest)) :
    ∃ behind, result = .ok (behind, rest) := by
  obtain ⟨⟨behind, left⟩, taken, same⟩ := ok_of_map isRead
  cases same
  exact ⟨behind, taken⟩

theorem readString_suffix
    {text rest : Symbols}
    {content : List Char}
    (isRead : readString text = .ok (content, rest)) :
    rest <:+ text := by
  fun_induction readString text generalizing content
  case case3 =>
    cases isRead
    exact List.suffix_cons _ _
  case case6 hypothesis | case10 hypothesis | case11 hypothesis |
    case15 hypothesis =>
    obtain ⟨behind, taken⟩ := ok_of_consChar isRead
    refine (hypothesis taken).trans ?_
    simp only [List.suffix_cons_iff, List.suffix_refl, or_true]
  all_goals cases isRead

theorem skipString_suffix
    {text rest : Symbols}
    (isRead : skipString text = .ok rest) :
    rest <:+ text := by
  fun_induction skipString text
  case case3 =>
    cases isRead
    exact List.suffix_cons _ _
  case case2 hypothesis | case5 hypothesis | case6 hypothesis |
    case10 hypothesis =>
    refine (hypothesis isRead).trans ?_
    simp only [List.suffix_cons_iff, List.suffix_refl, or_true]
  all_goals cases isRead

theorem takeDigits_suffix (text : Symbols) : (takeDigits text).2 <:+ text := by
  fun_induction takeDigits text with
  | case1 c rest digit digits after taken hypothesis =>
      rw [taken] at hypothesis
      exact hypothesis.trans (List.suffix_cons _ _)
  | case2 | case3 => exact List.suffix_refl _

theorem takeSomeDigits_suffix
    {text rest : Symbols}
    {digits : List Nat}
    (isRead : takeSomeDigits text = .ok (digits, rest)) :
    rest <:+ text := by
  have suffix := takeDigits_suffix text
  unfold takeSomeDigits at isRead
  split at isRead
  · cases isRead
  · rwa [Except.ok.inj isRead] at suffix

theorem takeWhole_suffix
    {text rest : Symbols}
    {digits : List Nat}
    (isRead : takeWhole text = .ok (digits, rest)) :
    rest <:+ text := by
  have suffix := takeDigits_suffix text
  unfold takeWhole at isRead
  split at isRead
  · cases isRead
  · cases isRead
  · rwa [Except.ok.inj isRead] at suffix

theorem takeFraction_suffix
    {text rest : Symbols}
    {fraction : Option (List Nat)}
    (isRead : takeFraction text = .ok (fraction, rest)) :
    rest <:+ text := by
  unfold takeFraction at isRead
  split at isRead
  · obtain ⟨⟨digits, after⟩, taken, same⟩ := ok_of_map isRead
    cases same
    exact (takeSomeDigits_suffix taken).trans (List.suffix_cons _ _)
  · cases isRead
    exact List.suffix_refl _

theorem takeSign_suffix (text : Symbols) : (takeSign text).2 <:+ text := by
  unfold takeSign
  split
  · exact List.suffix_cons _ _
  · exact List.suffix_cons _ _
  · exact List.suffix_refl _

theorem takeExponent_suffix
    {text rest : Symbols}
    {exponent : Option (Bool × List Nat)}
    (isRead : takeExponent text = .ok (exponent, rest)) :
    rest <:+ text := by
  unfold takeExponent at isRead
  split at isRead
  · split at isRead
    · obtain ⟨⟨digits, after⟩, taken, same⟩ := ok_of_map isRead
      cases same
      exact ((takeSomeDigits_suffix taken).trans (takeSign_suffix _)).trans
        (List.suffix_cons _ _)
    · cases isRead
      exact List.suffix_refl _
  · cases isRead
    exact List.suffix_refl _

theorem takeNumeral_suffix
    {text rest : Symbols}
    {numeral : Numeral}
    (isRead : takeNumeral text = .ok (numeral, rest)) :
    rest <:+ text := by
  unfold takeNumeral at isRead
  obtain ⟨⟨whole, behindWhole⟩, takenWhole, isRead⟩ := ok_of_bind isRead
  obtain ⟨⟨fraction, behindFraction⟩, takenFraction, isRead⟩ :=
    ok_of_bind isRead
  obtain ⟨⟨exponent, behindExponent⟩, takenExponent, isRead⟩ :=
    ok_of_bind isRead
  cases isRead
  refine (takeExponent_suffix takenExponent).trans
    ((takeFraction_suffix takenFraction).trans
      ((takeWhole_suffix takenWhole).trans ?_))
  split
  · exact List.suffix_cons _ _
  · exact List.suffix_refl _

theorem readNumeral_suffix
    {text rest : Symbols}
    {numeral : Numeral}
    (isRead : readNumeral text = .ok (numeral, rest)) :
    rest <:+ text := by
  obtain ⟨⟨taken, behind⟩, isTaken, isRead⟩ := ok_of_bind isRead
  simp only at isRead
  split at isRead
  · cases isRead
  · cases isRead
    exact takeNumeral_suffix isTaken

/-! ## Values that are stepped over -/

theorem Scrutiny.string_suffix
    {scrutiny : Scrutiny}
    {text rest : Symbols}
    (isRead : scrutiny.string text = .ok rest) :
    rest <:+ text := by
  cases scrutiny with
  | lenient => exact skipString_suffix isRead
  | strict depth =>
      obtain ⟨⟨content, behind⟩, taken, rfl⟩ := ok_of_map isRead
      exact readString_suffix taken

theorem Scrutiny.number_suffix
    {scrutiny : Scrutiny}
    {text rest : Symbols}
    (isRead : scrutiny.number text = .ok rest) :
    rest <:+ text := by
  cases scrutiny with
  | lenient =>
      obtain ⟨⟨numeral, behind⟩, taken, rfl⟩ := ok_of_map isRead
      exact takeNumeral_suffix taken
  | strict depth =>
      obtain ⟨⟨numeral, behind⟩, taken, rfl⟩ := ok_of_map isRead
      exact readNumeral_suffix taken

theorem scanScalar_suffix
    {scrutiny : Scrutiny}
    {text rest : Symbols}
    (isRead : scanScalar scrutiny text = .ok rest) :
    rest <:+ text := by
  unfold scanScalar at isRead
  split at isRead
  · exact (Scrutiny.string_suffix isRead).trans (List.suffix_cons _ _)
  · exact (expect_suffix isRead).trans (List.suffix_cons _ _)
  · exact (expect_suffix isRead).trans (List.suffix_cons _ _)
  · exact (expect_suffix isRead).trans (List.suffix_cons _ _)
  · split at isRead
    · exact Scrutiny.number_suffix isRead
    · cases isRead
  · cases isRead

theorem scanKey_suffix
    {scrutiny : Scrutiny}
    {text rest : Symbols}
    (isRead : scanKey scrutiny text = .ok rest) :
    rest <:+ text := by
  unfold scanKey at isRead
  split at isRead
  · rename_i behind opened
    obtain ⟨behind, taken, isRead⟩ := ok_of_bind isRead
    split at isRead
    · rename_i colon
      cases isRead
      exact (suffix_of_skipSpace colon).trans
        ((Scrutiny.string_suffix taken).trans (suffix_of_skipSpace opened))
    · cases isRead
  · cases isRead

theorem scanWith_suffix
    {scrutiny : Scrutiny}
    {fuel : Nat}
    {brackets : List Bracket}
    {expectation : Expectation}
    {text rest : Symbols}
    (isRead : scanWith scrutiny fuel brackets expectation text = .ok rest) :
    rest <:+ text := by
  fun_induction scanWith scrutiny fuel brackets expectation text
  -- A container is opened.
  case case2 enter behind opened hypothesis |
    case3 enter behind opened hypothesis =>
    simp only [enter] at isRead
    split at isRead
    · exact (hypothesis _ _ isRead).trans (suffix_of_skipSpace opened)
    · cases isRead
  case case4 hypothesis =>
    obtain ⟨behind, taken, isRead⟩ := ok_of_bind isRead
    exact (hypothesis _ isRead).trans
      ((scanScalar_suffix taken).trans (skipSpace_suffix _))
  -- What stands next is not stepped over.
  case case7 next notClosing hypothesis | case8 next notClosing hypothesis =>
    exact (hypothesis isRead).trans (next ▸ skipSpace_suffix _)
  case case10 hypothesis =>
    obtain ⟨behind, taken, isRead⟩ := ok_of_bind isRead
    exact (hypothesis _ isRead).trans (scanKey_suffix taken)
  case case11 =>
    cases isRead
    exact List.suffix_refl _
  -- A container is closed, or a comma stands next.
  case case6 next hypothesis | case12 next hypothesis =>
    exact (hypothesis isRead).trans (suffix_of_skipSpace next)
  case case13 next notClosing hypothesis | case14 next notClosing hypothesis =>
    exact (hypothesis isRead).trans (suffix_of_skipSpace next)
  all_goals cases isRead

theorem skipValue_suffix
    {text rest : Symbols}
    (isRead : skipValue text = .ok rest) :
    rest <:+ text :=
  scanWith_suffix isRead

/-! ## Values that are read -/

/-- What a reader leaves is an end of the text. -/
def LeavesEnd {α : Type} (reader : Reader α) : Prop :=
  ∀ ⦃text rest : Symbols⦄ ⦃value : α⦄, reader text = .ok (value, rest) →
    rest <:+ text

theorem LeavesEnd.map
    {α β : Type}
    {reader : Reader α}
    (leaves : LeavesEnd reader)
    {change : α × Symbols → β × Symbols}
    (sameRest : ∀ taken, (change taken).2 = taken.2) :
    LeavesEnd fun text => (reader text).map change := by
  intro text rest value isRead
  obtain ⟨⟨held, left⟩, taken, same⟩ := ok_of_map isRead
  have isRest : rest = left := by simpa [same] using sameRest (held, left)
  exact isRest ▸ leaves taken

theorem leavesEnd_readText : LeavesEnd readText := by
  intro text rest value isRead
  unfold readText at isRead
  split at isRead
  · rename_i behind opened
    obtain ⟨⟨content, left⟩, taken, same⟩ := ok_of_map isRead
    cases same
    exact (readString_suffix taken).trans (suffix_of_skipSpace opened)
  · exact absurd isRead (refuse_ne_ok _ _)

theorem leavesEnd_readWord : LeavesEnd readWord := by
  intro text rest value isRead
  unfold readWord at isRead
  split at isRead
  · rename_i c behind next
    split at isRead
    · obtain ⟨⟨numeral, left⟩, taken, isRead⟩ := ok_of_bind isRead
      simp only at isRead
      split at isRead
      · cases isRead
        exact (readNumeral_suffix taken).trans (next ▸ skipSpace_suffix _)
      · cases isRead
    · exact absurd isRead (refuse_ne_ok _ _)
  · exact absurd isRead (refuse_ne_ok _ _)

theorem LeavesEnd.optional
    {α : Type}
    {reader : Reader α}
    (leaves : LeavesEnd reader) :
    LeavesEnd (readOptional reader) := by
  intro text rest value isRead
  unfold readOptional at isRead
  split at isRead
  · rename_i behind next
    obtain ⟨left, taken, same⟩ := ok_of_map isRead
    cases same
    exact (expect_suffix taken).trans (suffix_of_skipSpace next)
  · obtain ⟨⟨held, left⟩, taken, same⟩ := ok_of_map isRead
    cases same
    exact (leaves taken).trans (skipSpace_suffix _)

theorem nextItem_suffix
    {first : Bool}
    {text behind : Symbols}
    (isRead : nextItem first text = .ok (some behind)) :
    behind <:+ text := by
  unfold nextItem at isRead
  split at isRead
  · cases isRead
  · rename_i left next
    split at isRead
    · cases isRead
      exact next ▸ skipSpace_suffix _
    · split at isRead
      · cases isRead
      · cases isRead
      · cases isRead
        exact (skipSpace_suffix _).trans (suffix_of_skipSpace next)
  · cases isRead
  · split at isRead
    · cases isRead
      exact skipSpace_suffix _
    · cases isRead

theorem closeArray_suffix
    {text rest : Symbols}
    (isRead : closeArray text = .ok rest) :
    rest <:+ text := by
  unfold closeArray at isRead
  split at isRead
  · rename_i left next
    cases isRead
    exact suffix_of_skipSpace next
  · cases isRead

/-- Items that are read are fewer than the fuel, and leave an end of the
text. -/
theorem readItemsWith_suffix
    {α : Type}
    {reader : Reader α}
    (leaves : LeavesEnd reader)
    {fuel : Nat}
    {first : Bool}
    {text rest : Symbols}
    {items : List α}
    (isRead : readItemsWith reader fuel first text = .ok (items, rest)) :
    items.length < fuel ∧ rest <:+ text := by
  induction fuel generalizing first text items with
  | zero => cases isRead
  | succ fuel hypothesis =>
      rw [readItemsWith] at isRead
      obtain ⟨item, next, isRead⟩ := ok_of_bind isRead
      cases item with
      | none =>
          cases isRead
          exact ⟨Nat.succ_pos fuel, List.suffix_refl _⟩
      | some behind =>
          obtain ⟨⟨item, left⟩, taken, isRead⟩ := ok_of_bind isRead
          obtain ⟨⟨others, last⟩, takenOthers, isRead⟩ := ok_of_bind isRead
          cases isRead
          obtain ⟨fewer, suffix⟩ := hypothesis takenOthers
          exact ⟨Nat.succ_lt_succ fewer,
            suffix.trans ((leaves taken).trans (nextItem_suffix next))⟩

/-- A list that is read has no more items than the text has characters. -/
theorem readList_suffix
    {α : Type}
    {reader : Reader α}
    (leaves : LeavesEnd reader)
    {text rest : Symbols}
    {items : List α}
    (isRead : readList reader text = .ok (items, rest)) :
    items.length ≤ text.length ∧ rest <:+ text := by
  unfold readList at isRead
  split at isRead
  · rename_i behind opened
    obtain ⟨⟨taken, left⟩, isTaken, isRead⟩ := ok_of_bind isRead
    obtain ⟨closed, closes, isRead⟩ := ok_of_bind isRead
    cases isRead
    obtain ⟨fewer, suffix⟩ := readItemsWith_suffix leaves isTaken
    have inside := suffix_of_skipSpace opened
    exact ⟨Nat.le_trans (Nat.le_of_lt_succ fewer) inside.length_le,
      (closeArray_suffix closes).trans (suffix.trans inside)⟩
  · exact absurd isRead (refuse_ne_ok _ _)

/-! ## Structures -/

theorem nextKey_suffix
    {first : Bool}
    {text behind : Symbols}
    (isRead : nextKey first text = .ok (some behind)) :
    behind <:+ text := by
  unfold nextKey at isRead
  split at isRead
  · cases isRead
  · rename_i left next
    split at isRead
    · cases isRead
    · split at isRead
      · rename_i opened
        cases isRead
        exact (suffix_of_skipSpace opened).trans (suffix_of_skipSpace next)
      · cases isRead
  · rename_i left next
    split at isRead
    · cases isRead
      exact suffix_of_skipSpace next
    · cases isRead
  · cases isRead

theorem skipColon_suffix
    {text rest : Symbols}
    (isRead : skipColon text = .ok rest) :
    rest <:+ text := by
  unfold skipColon at isRead
  split at isRead
  · rename_i left next
    cases isRead
    exact suffix_of_skipSpace next
  · cases isRead

theorem closeObject_suffix
    {text rest : Symbols}
    (isRead : closeObject text = .ok rest) :
    rest <:+ text := by
  unfold closeObject at isRead
  split at isRead
  · rename_i left next
    cases isRead
    exact suffix_of_skipSpace next
  · cases isRead

variable {σ α : Type} {fields : List (Field σ)} {keeps : σ → Prop}
  {whole : Symbols}

theorem readMembersWith_suffix
    {member : σ → String → Symbols → Except Fault (σ × Symbols)}
    (step : ∀ {state key text after rest}, text <:+ whole → keeps state →
      member state key text = .ok (after, rest) → rest <:+ text ∧ keeps after)
    {fuel : Nat}
    {first : Bool}
    {state after : σ}
    {text rest : Symbols}
    (inside : text <:+ whole)
    (initial : keeps state)
    (isRead : readMembersWith member fuel first state text =
      .ok (after, rest)) :
    rest <:+ text ∧ keeps after := by
  induction fuel generalizing first state text with
  | zero => cases isRead
  | succ fuel hypothesis =>
      rw [readMembersWith] at isRead
      obtain ⟨key, next, isRead⟩ := ok_of_bind isRead
      cases key with
      | none =>
          cases isRead
          exact ⟨List.suffix_refl _, initial⟩
      | some behind =>
          obtain ⟨⟨key, left⟩, named, isRead⟩ := ok_of_bind isRead
          obtain ⟨⟨between, last⟩, taken, isRead⟩ := ok_of_bind isRead
          have behindKey :=
            (readString_suffix named).trans (nextKey_suffix next)
          obtain ⟨suffix, kept⟩ := step (behindKey.trans inside) initial taken
          have shorter := suffix.trans behindKey
          obtain ⟨suffix, kept⟩ := hypothesis (shorter.trans inside) kept isRead
          exact ⟨suffix.trans shorter, kept⟩

theorem readMember_suffix
    (step : ∀ field ∈ fields, ∀ {state text after rest}, text <:+ whole →
      keeps state →
      field.read state text = .ok (after, rest) → rest <:+ text ∧ keeps after)
    {state after : σ}
    {key : String}
    {text rest : Symbols}
    (inside : text <:+ whole)
    (initial : keeps state)
    (isRead : readMember fields state key text = .ok (after, rest)) :
    rest <:+ text ∧ keeps after := by
  unfold readMember at isRead
  split at isRead
  · obtain ⟨colon, isColon, isRead⟩ := ok_of_bind isRead
    obtain ⟨value, skipped, isRead⟩ := ok_of_bind isRead
    cases isRead
    exact ⟨(skipValue_suffix skipped).trans (skipColon_suffix isColon), initial⟩
  · rename_i field found
    split at isRead
    · cases isRead
    · obtain ⟨behind, isColon, isRead⟩ := ok_of_bind isRead
      have shorter := skipColon_suffix isColon
      obtain ⟨suffix, kept⟩ := step field (List.mem_of_find?_eq_some found)
        (shorter.trans inside) initial isRead
      exact ⟨suffix.trans shorter, kept⟩

theorem readPositions_suffix
    (step : ∀ field ∈ fields, ∀ {state text after rest}, text <:+ whole →
      keeps state →
      field.read state text = .ok (after, rest) → rest <:+ text ∧ keeps after)
    {first : Bool}
    {state after : σ}
    {text rest : Symbols}
    (inside : text <:+ whole)
    (initial : keeps state)
    (isRead : readPositions fields first state text = .ok (after, rest)) :
    rest <:+ text ∧ keeps after := by
  induction fields generalizing first state text with
  | nil =>
      cases isRead
      exact ⟨List.suffix_refl _, initial⟩
  | cons field fields hypothesis =>
      obtain ⟨own, others⟩ := List.forall_mem_cons.mp step
      rw [readPositions] at isRead
      obtain ⟨item, next, isRead⟩ := ok_of_bind isRead
      cases item with
      | none =>
          cases isRead
          exact ⟨List.suffix_refl _, initial⟩
      | some behind =>
          obtain ⟨⟨between, left⟩, taken, isRead⟩ := ok_of_bind isRead
          have found := nextItem_suffix next
          obtain ⟨suffix, kept⟩ := own (found.trans inside) initial taken
          have shorter := suffix.trans found
          obtain ⟨suffix, kept⟩ :=
            hypothesis others (shorter.trans inside) kept isRead
          exact ⟨suffix.trans shorter, kept⟩

/-- A structure that is read leaves an end of the text, and was finished from a
draft that has what its fields keep on every end of the text. -/
theorem readStructure_suffix
    (keeps : σ → Prop)
    {draft : σ}
    {finish : σ → Option α}
    {text rest : Symbols}
    (step : ∀ field ∈ fields, ∀ {state taken after rest}, taken <:+ text →
      keeps state →
      field.read state taken = .ok (after, rest) → rest <:+ taken ∧ keeps after)
    (initial : keeps draft)
    {value : α}
    (isRead : readStructure fields draft finish text = .ok (value, rest)) :
    rest <:+ text ∧ ∃ state, keeps state ∧ finish state = some value := by
  unfold readStructure at isRead
  simp only at isRead
  split at isRead
  · rename_i behind opened
    obtain ⟨⟨state, left⟩, members, isRead⟩ := ok_of_bind isRead
    have inside := suffix_of_skipSpace opened
    obtain ⟨suffix, kept⟩ :=
      readMembersWith_suffix (readMember_suffix step) inside initial members
    simp only at isRead
    split at isRead
    · cases isRead
    · rename_i finished
      obtain ⟨closed, closes, same⟩ := ok_of_map isRead
      cases same
      exact ⟨(closeObject_suffix closes).trans (suffix.trans inside), state,
        kept, finished⟩
  · rename_i behind opened
    obtain ⟨⟨state, left⟩, members, isRead⟩ := ok_of_bind isRead
    have inside := suffix_of_skipSpace opened
    obtain ⟨suffix, kept⟩ := readPositions_suffix step inside initial members
    simp only at isRead
    split at isRead
    · cases isRead
    · rename_i finished
      obtain ⟨closed, closes, same⟩ := ok_of_map isRead
      cases same
      exact ⟨(closeArray_suffix closes).trans (suffix.trans inside), state,
        kept, finished⟩
  · exact absurd isRead (refuse_ne_ok _ _)

end Json
end NameService
