import NameService.Proofs.Json.Lexeme

/-!
# Values read back

A reader reads a text back if it takes the value from the text and leaves what
stands behind it. Readers of members and items that read them back make readers
of objects and arrays that do.
-/

namespace NameService
namespace Json

/-- A reader takes a value from a text and leaves what stands behind it. -/
def Reads
    {α : Type}
    (reader : Reader α)
    (text : List Char)
    (value : α) : Prop :=
  ∀ rest, Delimited rest → reader (text.map some ++ rest) = .ok (value, rest)

/-- A text starts with a character that is neither blank nor a delimiter. -/
def Solid : List Char → Prop
  | [] => False
  | c :: _ => isSpace c = false ∧ c ≠ ',' ∧ c ≠ ']' ∧ c ≠ '\x7d'

/-! ## Scalars -/

/-- A digit is neither blank nor a delimiter. -/
theorem solid_of_isDigit
    {c : Char}
    (digit : c.isDigit = true)
    (rest : List Char) :
    Solid (c :: rest) := by
  refine ⟨?_, ?_, ?_, ?_⟩
  · refine Bool.eq_false_iff.mpr fun space => ?_
    simp only [isSpace, Bool.or_eq_true, beq_iff_eq] at space
    rcases space with ((rfl | rfl) | rfl) | rfl <;> simp at digit
  all_goals
    rintro rfl
    simp at digit

/-- The number of a word starts with a digit. -/
theorem number_eq_cons (value : Nat) :
    ∃ c rest, number value = c :: rest ∧ c.isDigit = true := by
  match digits : Text.decimal value with
  | [] => exact absurd digits (Text.decimal_ne_nil value)
  | c :: rest =>
      have present : c ∈ Text.decimal value := by simp [digits]
      exact ⟨c, rest, digits, Text.isDigit_of_mem_decimal present⟩

theorem solid_number (value : Nat) : Solid (number value) := by
  obtain ⟨c, rest, starts, digit⟩ := number_eq_cons value
  rw [starts]
  exact solid_of_isDigit digit rest

/-- A number is not mistaken for `null`. -/
theorem number_head_ne (value : Nat) : (number value).head? ≠ some 'n' := by
  obtain ⟨c, rest, starts, digit⟩ := number_eq_cons value
  rw [starts, List.head?_cons]
  intro same
  rw [Option.some.inj same] at digit
  cases digit

/-- The number of a word is read as the word. -/
theorem reads_number {value : Nat} (word : value ≤ Word.max) :
    Reads readWord (number value) value := by
  intro rest ends
  obtain ⟨numeral, taken, isWord⟩ := readNumeral_number word ends
  obtain ⟨c, digits, starts, digit⟩ := number_eq_cons value
  have solid := solid_of_isDigit digit digits
  rw [starts, List.map_cons, List.cons_append] at taken ⊢
  rw [readWord, skipSpace_cons_of_not_space solid.1]
  simp [digit, taken, isWord, bind, Except.bind]

/-- A value that cannot be `null` may stand where one that can is read. -/
theorem Reads.optional
    {α : Type}
    {reader : Reader α}
    {text : List Char}
    {value : α}
    (reads : Reads reader text value)
    (solid : Solid text)
    (present : text.head? ≠ some 'n') :
    Reads (readOptional reader) text (some value) := by
  intro rest ends
  have taken := reads rest ends
  cases text with
  | nil => exact absurd solid id
  | cons c text =>
      have notNull : c ≠ 'n' := fun same => present (by simp [same])
      rw [List.map_cons, List.cons_append] at taken ⊢
      rw [readOptional, skipSpace_cons_of_not_space solid.1]
      simp [notNull, taken, Except.map]

/-- A string is read as the text it holds. -/
theorem reads_string (text : String) : Reads readText (string text) text := by
  intro rest ends
  rw [string, List.map_cons, List.cons_append, readText,
    skipSpace_cons_of_not_space (by decide)]
  simp [readString_stringBody, Except.map]

/-! ## Arrays -/

/-- Items between commas, by the commas. -/
theorem commaSeparated_cons (item : List Char) (items : List (List Char)) :
    commaSeparated (item :: items) = item ++ items.flatMap (',' :: ·) := by
  induction items generalizing item with
  | nil => simp [commaSeparated]
  | cons next items hypothesis => simp [commaSeparated, hypothesis next]

/-- Behind items that follow a first one stands a comma, or the end. -/
theorem delimited_flatMap
    (items : List (List Char))
    {rest : Symbols}
    (ends : Delimited rest) :
    Delimited ((items.flatMap (',' :: ·)).map some ++ rest) := by
  cases items with
  | nil => simpa using ends
  | cons item items => simp

/-- The end of an array is left standing. -/
theorem nextItem_end (first : Bool) (rest : Symbols) :
    nextItem first (some ']' :: rest) = .ok none := by
  simp [nextItem, skipSpace, isSpace]

/-- The first item of an array is stepped to. -/
theorem nextItem_first
    {text : List Char}
    (solid : Solid text)
    (rest : Symbols) :
    nextItem true (text.map some ++ rest) =
      .ok (some (text.map some ++ rest)) := by
  cases text with
  | nil => exact absurd solid id
  | cons c text =>
      obtain ⟨notSpace, notComma, notEnd, -⟩ := solid
      rw [List.map_cons, List.cons_append, nextItem,
        skipSpace_cons_of_not_space notSpace]
      simp [notComma, notEnd]

/-- An item behind a comma is stepped to. -/
theorem nextItem_comma
    {text : List Char}
    (solid : Solid text)
    (rest : Symbols) :
    nextItem false (some ',' :: (text.map some ++ rest)) =
      .ok (some (text.map some ++ rest)) := by
  cases text with
  | nil => exact absurd solid id
  | cons c text =>
      obtain ⟨notSpace, notComma, notEnd, -⟩ := solid
      rw [List.map_cons, List.cons_append, nextItem,
        skipSpace_cons_of_not_space (by decide)]
      simp [skipSpace_cons_of_not_space notSpace, notEnd]

/-- Items that follow a first one are read in order. -/
theorem readItemsWith_flatMap
    {α : Type}
    {reader : Reader α}
    {write : α → List Char}
    {items : List α}
    (reads : ∀ item ∈ items, Reads reader (write item) item ∧
      Solid (write item))
    {fuel : Nat}
    (enough : items.length < fuel)
    (rest : Symbols) :
    readItemsWith reader fuel false
        (((items.map write).flatMap (',' :: ·)).map some ++ some ']' :: rest) =
      .ok (items, some ']' :: rest) := by
  induction items generalizing fuel with
  | nil =>
      obtain ⟨fuel, rfl⟩ :=
        Nat.exists_eq_add_one_of_ne_zero (Nat.ne_zero_of_lt enough)
      simp [readItemsWith, nextItem_end, bind, Except.bind]
  | cons item items hypothesis =>
      obtain ⟨fuel, rfl⟩ :=
        Nat.exists_eq_add_one_of_ne_zero (Nat.ne_zero_of_lt enough)
      obtain ⟨taken, solid⟩ := reads item List.mem_cons_self
      have first :=
        taken _ (delimited_flatMap (items.map write) (delimited_bracket rest))
      have behind :=
        hypothesis (fun other present => reads other (.tail _ present))
          (Nat.lt_of_succ_lt_succ enough)
      rw [List.map_cons, List.flatMap_cons, List.cons_append, List.map_cons,
        List.map_append, List.cons_append, List.append_assoc, readItemsWith,
        nextItem_comma solid]
      simp only [bind, Except.bind, first, behind]

/-- Items cost an array a character each at least. -/
theorem length_le_flatMap {α : Type} (items : List α) (write : α → List Char) :
    items.length ≤ ((items.map write).flatMap (',' :: ·)).length := by
  induction items with
  | nil => exact Nat.le_refl 0
  | cons item items hypothesis =>
      rw [List.map_cons, List.flatMap_cons, List.length_append,
        List.length_cons, List.length_cons]
      omega

/-- Items that are not empty take a character each at least. -/
theorem length_le_commaSeparated
    {items : List (List Char)}
    (nonempty : ∀ item ∈ items, item ≠ []) :
    items.length ≤ (commaSeparated items).length := by
  cases items with
  | nil => exact Nat.le_refl 0
  | cons item items =>
      have first := List.length_pos_iff.mpr (nonempty item List.mem_cons_self)
      have behind := length_le_flatMap items id
      rw [List.map_id] at behind
      rw [commaSeparated_cons, List.length_append, List.length_cons]
      omega

/-- An array is read as its items. -/
theorem reads_array
    {α : Type}
    {reader : Reader α}
    {write : α → List Char}
    {items : List α}
    (reads : ∀ item ∈ items, Reads reader (write item) item ∧
      Solid (write item)) :
    Reads (readList reader) (array (items.map write)) items := by
  intro rest ends
  have closes : closeArray (some ']' :: rest) = .ok rest := by
    simp [closeArray, skipSpace, isSpace]
  rw [array, List.cons_append, List.map_cons, List.cons_append, readList,
    skipSpace_cons_of_not_space (by decide)]
  simp only [List.map_append, List.map_cons, List.map_nil, List.append_assoc,
    List.cons_append, List.nil_append]
  cases items with
  | nil =>
      simp [commaSeparated, readItemsWith, nextItem_end, closes, bind,
        Except.bind]
  | cons item items =>
      obtain ⟨taken, solid⟩ := reads item List.mem_cons_self
      rw [List.map_cons, commaSeparated_cons, List.map_append,
        List.append_assoc, readItemsWith, nextItem_first solid]
      have first :=
        taken _ (delimited_flatMap (items.map write) (delimited_bracket rest))
      have bound := length_le_flatMap items write
      have behind (fuel : Nat) (enough : items.length < fuel) :=
        readItemsWith_flatMap
          (fun other present => reads other (.tail _ present)) enough rest
      simp only [bind, Except.bind, first]
      rw [behind]
      · simp only [closes]
      · simp only [List.length_append, List.length_map, List.length_cons]
        omega

/-! ## Objects -/

/-- A member of an object changes a state to another one. -/
def TakesMember
    {σ : Type}
    (step : σ → String → Symbols → Except Fault (σ × Symbols))
    (before : σ)
    (name : String)
    (value : List Char)
    (after : σ) : Prop :=
  ∀ rest, Delimited rest →
    step before name (some ':' :: (value.map some ++ rest)) = .ok (after, rest)

/-- Members of an object in order change a state. -/
inductive Takes
    {σ : Type}
    (step : σ → String → Symbols → Except Fault (σ × Symbols)) :
    σ → List (String × List Char) → σ → Prop
  | nil (state : σ) : Takes step state [] state
  | cons {before between after : σ} {name : String} {value : List Char}
      {members : List (String × List Char)}
      (taken : TakesMember step before name value between)
      (behind : Takes step between members after) :
      Takes step before ((name, value) :: members) after

/-- The end of an object is left standing. -/
theorem nextKey_end (first : Bool) (rest : Symbols) :
    nextKey first (some '\x7d' :: rest) = .ok none := by
  simp [nextKey, skipSpace, isSpace]

/-- One member is read. -/
theorem readMembersWith_member
    {σ : Type}
    {step : σ → String → Symbols → Except Fault (σ × Symbols)}
    {first : Bool}
    {before between : σ}
    {text : Symbols}
    {name : String}
    {value : List Char}
    {rest : Symbols}
    (found : nextKey first text =
      .ok (some ((stringBody name.toList).map some ++
        some ':' :: (value.map some ++ rest))))
    (taken : step before name (some ':' :: (value.map some ++ rest)) =
      .ok (between, rest))
    (fuel : Nat) :
    readMembersWith step (fuel + 1) first before text =
      readMembersWith step fuel false between rest := by
  rw [readMembersWith, found]
  simp only [bind, Except.bind, readString_stringBody, String.ofList_toList,
    taken]

/-- Members that follow a first one are read in order. -/
theorem readMembersWith_flatMap
    {σ : Type}
    {step : σ → String → Symbols → Except Fault (σ × Symbols)}
    {before after : σ}
    {members : List (String × List Char)}
    (takes : Takes step before members after)
    {fuel : Nat}
    (enough : members.length < fuel)
    (rest : Symbols) :
    readMembersWith step fuel false before
        (((members.map fun entry => member entry.1 entry.2).flatMap
          (',' :: ·)).map some ++
          some '\x7d' :: rest) =
      .ok (after, some '\x7d' :: rest) := by
  induction takes generalizing fuel with
  | nil state =>
      obtain ⟨fuel, rfl⟩ :=
        Nat.exists_eq_add_one_of_ne_zero (Nat.ne_zero_of_lt enough)
      simp [readMembersWith, nextKey_end, bind, Except.bind]
  | cons taken behind hypothesis =>
      rename_i name value members
      obtain ⟨fuel, rfl⟩ :=
        Nat.exists_eq_add_one_of_ne_zero (Nat.ne_zero_of_lt enough)
      have first := taken _ (delimited_flatMap
        (members.map fun entry => member entry.1 entry.2)
        (delimited_brace rest))
      rw [readMembersWith_member ?_ first,
        hypothesis (Nat.lt_of_succ_lt_succ enough)]
      simp [nextKey, skipSpace, isSpace, member, string]

/-- The members of an object are read in order, up to its end. -/
theorem readMembers_object
    {σ : Type}
    {step : σ → String → Symbols → Except Fault (σ × Symbols)}
    {before after : σ}
    {members : List (String × List Char)}
    (takes : Takes step before members after)
    (rest : Symbols) :
    readMembers step before
        ((commaSeparated (members.map fun entry => member entry.1 entry.2)).map
          some ++
          some '\x7d' :: rest) =
      .ok (after, some '\x7d' :: rest) := by
  cases takes with
  | nil =>
      simp [readMembers, commaSeparated, readMembersWith, nextKey_end, bind,
        Except.bind]
  | cons taken behind =>
      rename_i name value members
      have first := taken _ (delimited_flatMap
        (members.map fun entry => member entry.1 entry.2)
        (delimited_brace rest))
      rw [readMembers, List.map_cons, commaSeparated_cons, List.map_append,
        List.append_assoc, readMembersWith_member ?_ first,
        readMembersWith_flatMap behind]
      · have bound :=
          length_le_flatMap members fun entry => member entry.1 entry.2
        simp only [List.length_append, List.length_map, List.length_cons]
        omega
      · simp [nextKey, skipSpace, isSpace, member, string]

/-- The end of an object is stepped over. -/
theorem closeObject_end (rest : Symbols) :
    closeObject (some '\x7d' :: rest) = .ok rest := by
  simp [closeObject, skipSpace, isSpace]

/-- An object is opened by its brace. -/
theorem object_eq (members : List (List Char)) (rest : Symbols) :
    (object members).map some ++ rest =
      some '\x7b' ::
        ((commaSeparated members).map some ++ some '\x7d' :: rest) := by
  simp [object]

theorem solid_object (members : List (List Char)) : Solid (object members) := by
  simp [object, Solid, isSpace]

/-- A structure is read from an object of its members. -/
theorem reads_structure
    {σ α : Type}
    {fields : List (Field σ)}
    {before after : σ}
    {finish : σ → Option α}
    {members : List (String × List Char)}
    {value : α}
    (takes : Takes (readMember fields) before members after)
    (finished : finish after = some value) :
    Reads (readStructure fields before finish)
      (object (members.map fun entry => member entry.1 entry.2)) value := by
  intro rest ends
  rw [object_eq, readStructure, skipSpace_cons_of_not_space (by decide)]
  simp [readMembers_object takes, finished, closeObject_end, bind, Except.bind,
    Except.map]

/-- A member of a structure is read into the draft by its field. -/
theorem readMember_field
    {σ : Type}
    {fields : List (Field σ)}
    {field : Field σ}
    {name : String}
    (found : fields.find? (fun field => field.name == name) = some field)
    {before : σ}
    (absent : field.present before = false)
    (text : Symbols) :
    readMember fields before name (some ':' :: text) =
      field.read before text := by
  simp [readMember, found, absent, skipColon, skipSpace, isSpace, bind,
    Except.bind]

/-- A text that holds one value is read as the value. -/
theorem readDocument_of_reads
    {α : Type}
    {reader : Reader α}
    {text : List Char}
    {value : α}
    (reads : Reads reader text value) :
    readDocument reader (text.map some) = .ok value := by
  have taken := reads [] delimited_nil
  rw [List.append_nil] at taken
  simp [readDocument, taken, bind, Except.bind]

end Json
end NameService
