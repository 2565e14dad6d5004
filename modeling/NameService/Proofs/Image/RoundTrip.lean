import NameService.Proofs.Image.Validity
import NameService.Proofs.Json.Rest
import NameService.Proofs.Tree.History

/-!
# Images written again

The image of a namespace is read as the namespace, and so is the image of any
image that is read: what is written again no longer changes. An image that is
read has no more nodes than bytes, so its positions are words if the number of
its bytes is one.
-/

namespace NameService

theorem Kind.leavesEnd_read : Json.LeavesEnd Kind.read := by
  intro text rest kind isRead
  unfold Kind.read at isRead
  split at isRead
  · rename_i behind opened
    obtain ⟨⟨keyword, left⟩, taken, isRead⟩ := Json.ok_of_bind isRead
    obtain ⟨kind, -, isRead⟩ := Json.ok_of_bind isRead
    cases isRead
    exact (Json.readString_suffix taken).trans (Json.suffix_of_skipSpace opened)
  · rename_i behind opened
    obtain ⟨⟨keyword, behindKey⟩, taken, isRead⟩ := Json.ok_of_bind isRead
    obtain ⟨kind, -, isRead⟩ := Json.ok_of_bind isRead
    obtain ⟨behindColon, isColon, isRead⟩ := Json.ok_of_bind isRead
    obtain ⟨behindNull, isNull, isRead⟩ := Json.ok_of_bind isRead
    obtain ⟨left, closes, isRead⟩ := Json.ok_of_bind isRead
    cases isRead
    have colonLeft :=
      (Json.skipColon_suffix isColon).trans (Json.leavesEnd_readText taken)
    have nullLeft :=
      (Json.expect_suffix isNull).trans (Json.skipSpace_suffix behindColon)
    exact (Json.closeObject_suffix closes).trans
      (nullLeft.trans (colonLeft.trans (Json.suffix_of_skipSpace opened)))
  · cases isRead

namespace Image

theorem Entry.leavesEnd_read : Json.LeavesEnd Entry.read := by
  have fields_leave : ∀ field ∈ Entry.fields, ∀ state,
      Json.LeavesEnd (field.read state) := by
    refine List.forall_mem_cons.mpr ⟨?_, List.forall_mem_cons.mpr
      ⟨?_, List.forall_mem_singleton.mpr ?_⟩⟩
    · exact fun draft => Json.leavesEnd_readWord.optional.map fun _ => rfl
    · exact fun draft => Json.leavesEnd_readText.map fun _ => rfl
    · exact fun draft => Kind.leavesEnd_read.map fun _ => rfl
  intro text rest entry isRead
  exact (Json.readStructure_suffix (fun _ => True)
    (fun field present _ _ _ _ _ _ taken =>
      ⟨fields_leave field present _ taken, trivial⟩) trivial isRead).1

/-- The entries of an image that is read are no more than its bytes. -/
theorem length_le_of_decodeEntries
    {content : List UInt8}
    {txid : Nat}
    {entries : List Entry}
    (decoded : decodeEntries content = .ok (txid, entries)) :
    entries.length ≤ content.length := by
  have step : ∀ field ∈ fields,
      ∀ {draft : Draft} {text : Json.Symbols} {after : Draft} {rest :
        Json.Symbols}, text <:+ Text.decode content →
      (∀ listed ∈ draft.entries, listed.length ≤ content.length) →
      field.read draft text = .ok (after, rest) →
      rest <:+ text ∧
      ∀ listed ∈ after.entries, listed.length ≤ content.length := by
    refine List.forall_mem_cons.mpr ⟨?_, List.forall_mem_singleton.mpr ?_⟩
    · intro draft text after rest inside bounded isRead
      obtain ⟨⟨value, left⟩, taken, same⟩ := Json.ok_of_map isRead
      cases same
      exact ⟨Json.leavesEnd_readWord taken, bounded⟩
    · intro draft text after rest inside bounded isRead
      obtain ⟨⟨listed, left⟩, taken, same⟩ := Json.ok_of_map isRead
      cases same
      obtain ⟨fewer, suffix⟩ := Json.readList_suffix Entry.leavesEnd_read taken
      refine ⟨suffix, fun held isHeld => ?_⟩
      obtain rfl := Option.some.inj isHeld
      exact Nat.le_trans fewer
        (Nat.le_trans inside.length_le (Text.length_decode_le content))
  unfold decodeEntries Json.readDocument at decoded
  cases taken : readEntries (Text.decode content) with
  | error fault => simp [taken, bind, Except.bind, Except.mapError] at decoded
  | ok outcome =>
      obtain ⟨value, rest⟩ := outcome
      obtain ⟨-, draft, bounded, finished⟩ :=
        Json.readStructure_suffix
          (fun draft : Draft =>
            ∀ listed ∈ draft.entries, listed.length ≤ content.length) step
          (fun listed isListed => by cases isListed) taken
      simp only [taken, bind, Except.bind] at decoded
      split at decoded
      · simp only [Except.mapError, Except.ok.injEq] at decoded
        subst decoded
        obtain ⟨held, -, finished⟩ := Option.bind_eq_some_iff.mp finished
        obtain ⟨listed, isListed, finished⟩ :=
          Option.bind_eq_some_iff.mp finished
        cases finished
        exact bounded _ isListed
      · cases decoded

/-- An image that is read is read from what is written of it. -/
theorem decode_encode_of_decode
    {content : List UInt8}
    (inMemory : content.length ≤ Word.max)
    {image : Image}
    (decoded : decode content = .ok image) :
    decode (encode image.txid image.root) = .ok image := by
  obtain ⟨entries, listed, -, wellFormed, isDirectory, isRoot, pictures⟩ :=
    entries_of_decode decoded
  have words : image.root.size ≤ Word.max :=
    Nat.le_trans (pictures.size_eq ▸ length_le_of_decodeEntries listed) inMemory
  exact decode_encode (txid_le_of_decode decoded) wellFormed isDirectory isRoot
    words

/-- The bytes that are written of the image in bytes. -/
def reencode (content : List UInt8) : Except TreeError (List UInt8) :=
  (decode content).map fun image => encode image.txid image.root

/-- What is written of an image that is read holds the image, and is written
again as it is. -/
theorem reencode_fixed
    {content : List UInt8}
    (inMemory : content.length ≤ Word.max)
    {image : Image}
    (decoded : decode content = .ok image) :
    ∃ again : List UInt8, reencode content = .ok again ∧
      decode again = .ok image ∧
      reencode again = .ok again := by
  have holds := decode_encode_of_decode inMemory decoded
  exact ⟨_, by rw [reencode, decoded]; rfl, holds, by rw [reencode, holds]; rfl⟩

/-- Every namespace whose nodes can be numbered is read from its image, and so
is every one that mutations make. What is written of an image that is read holds
the same namespace and is written again as it is. -/
theorem roundTrips :
    (∀ (txid : Nat) (tree : Tree), txid ≤ Word.max → tree.WellFormed →
      tree.kind = .directory →
      tree.name = Tree.rootName → tree.size ≤ Word.max →
      decode (encode txid tree) = .ok ⟨txid, tree⟩) ∧
    (∀ (txid : Nat) (operations : List Operation), txid ≤ Word.max →
      (Tree.root.absorbAll operations).size ≤ Word.max →
      decode (encode txid (Tree.root.absorbAll operations)) =
        .ok ⟨txid, Tree.root.absorbAll operations⟩) ∧
    ∀ (content : List UInt8) (image : Image), content.length ≤ Word.max →
      decode content = .ok image →
      ∃ again : List UInt8, reencode content = .ok again ∧
        decode again = .ok image ∧
        reencode again = .ok again := by
  refine ⟨fun txid tree word wellFormed isDirectory isRoot words =>
    decode_encode word wellFormed isDirectory isRoot words,
      fun txid operations word words => ?_,
    fun content image inMemory decoded => reencode_fixed inMemory decoded⟩
  have whole : Tree.root.absorbAll operations =
      Tree.ofHistory operations operations.length := by
    rw [Tree.ofHistory, List.take_length]
  rw [whole] at words ⊢
  exact decode_encode word (Tree.wellFormed_ofHistory _ _)
    (Tree.kind_ofHistory _ _) (Tree.name_ofHistory _ _) words

/-- Mutations below a directory whose names need escapes. -/
def awkward : List Operation :=
  [.makeDirectory "/a/\"\\\n", .createFile "/a/\u2028é", .createFile "//a//b/"]

/-- Names that need escapes, and entries that do not stand in pre-order. -/
theorem roundTrips_awkward :
    decode (encode Word.max (Tree.root.absorbAll awkward)) =
        .ok ⟨Word.max, Tree.root.absorbAll awkward⟩ ∧
      ∃ image : Image, decode (Text.utf8 (encodeEntries 7 levels)) = .ok image ∧
        ∃ again : List UInt8,
          reencode (Text.utf8 (encodeEntries 7 levels)) = .ok again ∧
          decode again = .ok image ∧ reencode again = .ok again := by
  have few : (Tree.root.absorbAll awkward).size ≤ Word.max := by decide +kernel
  have short : (Text.utf8 (encodeEntries 7 levels)).length ≤ Word.max := by
    decide +kernel
  have words : ∀ entry ∈ levels, ∀ parent ∈ entry.parent,
      parent ≤ Word.max := by decide
  obtain ⟨image, decoded⟩ :=
    decode_of_valid (decodeEntries_utf8 (show 7 ≤ Word.max by decide) words)
      valid_levels
  exact ⟨roundTrips.2.1 Word.max awkward (Nat.le_refl _) few, image, decoded,
    roundTrips.2.2 _ image short decoded⟩

end Image
end NameService
