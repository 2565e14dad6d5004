import NameService.Log
import NameService.Proofs.Sorting
import NameService.Proofs.Text.Decimal
import NameService.Proofs.Text.Split

/-!
# Names of segments

The name of a segment's file tells its span and no other file that the log
writes has such a name. Spans in ascending order are listed in that order,
whatever the order of the names.
-/

namespace NameService

namespace Span

/-! ## The order of spans -/

theorem below_iff (left right : Span) :
    left.below right = true ↔
      left.first < right.first ∨ left.first = right.first ∧
      left.last ≤ right.last := by
  simp [below]

theorem total_below (left right : Span) (notBelow : left.below right = false) :
    right.below left = true := by
  have apart := mt (below_iff left right).mpr (by simp [notBelow])
  rw [below_iff]
  omega

theorem transitive_below
    (left middle right : Span)
    (first : left.below middle = true)
    (second : middle.below right = true) :
    left.below right = true := by
  rw [below_iff] at *
  omega

/-- Spans that each start behind the last one are listed in that order. -/
theorem sort_eq_of_perm
    {spans ordered : List Span}
    (same : spans.Perm ordered)
    (ascending : ordered.Pairwise fun left right => left.first < right.first) :
    Sorting.sort below spans = ordered := by
  apply Sorting.sort_eq_of_pairwise total_below transitive_below ?_ same
  · exact ascending.imp fun above => (below_iff _ _).mpr (.inl above)
  · intro left _ right _ forth back
    rw [below_iff] at forth back
    cases left
    cases right
    simp only [Span.mk.injEq] at *
    omega

/-! ## File names -/

theorem withoutEnding?_append (ending text : List Char) :
    withoutEnding? ending (text ++ ending) = some text := by
  simp [withoutEnding?]

/-- A numeral has no underscore. -/
theorem underscore_not_mem_decimal (value : Nat) :
    ∀ c ∈ Text.decimal value, (c == '_') = false := by
  intro c present
  refine beq_false_of_ne ?_
  rintro rfl
  exact Text.not_mem_decimal (by decide) present

/-- A span of words whose ends are in order. -/
structure Sound (span : Span) : Prop where
  ordered : span.first ≤ span.last
  word : span.last ≤ Word.max

/-- The name of a segment's file tells its span. -/
theorem ofFileName?_fileName {span : Span} (sound : span.Sound) :
    ofFileName? span.fileName = some span := by
  have ends : span.fileNameChars =
      (Text.decimal span.first ++ '_' :: Text.decimal span.last) ++ ending :=
    rfl
  have first := Text.decimal?_decimal (Nat.le_trans sound.ordered sound.word)
  have last := Text.decimal?_decimal sound.word
  rw [ofFileName?, fileName, String.toList_ofList, ofChars?, ends,
    withoutEnding?_append]
  simp [Text.splitOnce_append_cut (underscore_not_mem_decimal _), first, last,
    sound.ordered, bind, Option.bind]

/-- Every span that a name tells is sound. -/
theorem sound_of_ofFileName?
    {name : String}
    {span : Span}
    (told : ofFileName? name = some span) :
    span.Sound := by
  obtain ⟨stem, -, rest⟩ := Option.bind_eq_some_iff.mp told
  obtain ⟨⟨left, right⟩, -, rest⟩ := Option.bind_eq_some_iff.mp rest
  obtain ⟨first, -, rest⟩ := Option.bind_eq_some_iff.mp rest
  obtain ⟨last, isLast, rest⟩ := Option.bind_eq_some_iff.mp rest
  simp only at rest
  split at rest
  · rename_i ordered
    obtain rfl := Option.some.inj rest
    exact ⟨ordered, (Text.decimal?_eq_some_iff.mp isLast).1⟩
  · cases rest

/-- A scratch file is not taken for a segment. -/
theorem ofFileName?_scratch (span : Span) :
    ofFileName? (span.fileName ++ ".tmp") = none := by
  have tail : (span.fileName ++ ".tmp").toList =
      span.fileNameChars ++ ".tmp".toList := by
    simp [fileName]
  have other : ¬ ending <:+ span.fileNameChars ++ ".tmp".toList := by
    intro isSuffix
    have suffixes := List.suffix_of_suffix_length_le isSuffix
      (List.suffix_append span.fileNameChars ".tmp".toList) (by decide)
    revert suffixes
    decide
  rw [ofFileName?, tail, ofChars?, withoutEnding?,
    if_neg (by simpa using other)]
  rfl

/-- A span has one file name. -/
theorem fileName_injective
    {left right : Span}
    (same : left.fileName = right.fileName) :
    left = right := by
  have chars : left.fileNameChars = right.fileNameChars :=
    String.ofList_injective same
  have pieces := congrArg (Text.splitOnce (· == '_')) chars
  simp only [fileNameChars, List.append_assoc, List.cons_append] at pieces
  rw [Text.splitOnce_append_cut (underscore_not_mem_decimal _) (by decide),
    Text.splitOnce_append_cut (underscore_not_mem_decimal _)
      (by decide)] at pieces
  obtain ⟨firstSame, behindSame⟩ := Prod.mk.inj (Option.some.inj pieces)
  have lastSame := List.append_cancel_right behindSame
  cases left
  cases right
  exact congrArg₂ Span.mk (Text.decimal_injective firstSame)
    (Text.decimal_injective lastSame)

/-- No segment's file has the name of a scratch file. -/
theorem fileName_ne_scratch (span other : Span) :
    span.fileName ≠ other.fileName ++ ".tmp" := by
  intro same
  have chars : span.fileNameChars = other.fileNameChars ++ ".tmp".toList := by
    simpa [fileName] using congrArg String.toList same
  have suffixes := List.suffix_of_suffix_length_le
    (chars ▸ List.suffix_append _ _ : ".tmp".toList <:+ span.fileNameChars)
    (List.suffix_append _ _ : ending <:+ span.fileNameChars) (by decide)
  revert suffixes
  decide

end Span
end NameService
