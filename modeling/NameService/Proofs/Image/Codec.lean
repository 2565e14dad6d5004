import NameService.Image.Codec
import NameService.Proofs.Image.Assembly
import NameService.Proofs.Json.Drafts
import NameService.Proofs.Json.Shape
import NameService.Proofs.Text.Utf8
import NameService.Recovery

/-!
# Images read back

The bytes of the image of a namespace are read as the namespace and its
transaction id, if both that id and the positions of the nodes are words. Of any
bytes that are read as an image the transaction id is a word.
-/

namespace NameService

theorem Kind.reads_keyword (kind : Kind) :
    Json.Reads Kind.read (Json.string kind.keyword) kind := by
  intro rest ends
  rw [Json.string, List.map_cons, List.cons_append, Kind.read,
    Json.skipSpace_cons_of_not_space (by decide)]
  simp [Json.readString_stringBody, Kind.ofKeyword, bind, Except.bind, pure,
    Except.pure]

namespace Image

/-! ## Entries -/

namespace Entry

/-- The members of an entry. -/
def members (entry : Entry) : List (String × List Char) :=
  (entry.parent.map fun parent => ("parent", Json.number parent)).toList ++
    [("name", Json.string entry.name), ("kind", Json.string entry.kind.keyword)]

theorem encode_eq (entry : Entry) :
    entry.encode =
      Json.object
        (entry.members.map fun entry => Json.member entry.1 entry.2) := by
  obtain ⟨parent, name, kind⟩ := entry
  cases parent <;> rfl

/-- The draft of an entry of which everything that is written is read. -/
def draft (entry : Entry) : Draft :=
  ⟨entry.parent.map some, some entry.name, some entry.kind⟩

@[simp] theorem finish_draft (entry : Entry) :
    entry.draft.finish = some entry := by
  obtain ⟨parent, name, kind⟩ := entry
  cases parent <;> rfl

/-- The members of an entry give its draft. -/
theorem takes_members
    {entry : Entry}
    (words : ∀ parent ∈ entry.parent, parent ≤ Word.max) :
    Json.Takes (Json.readMember fields) ⟨none, none, none⟩ entry.members
      entry.draft := by
  obtain ⟨parent, name, kind⟩ := entry
  have tail (parent : Option (Option Nat)) :
      Json.Takes (Json.readMember fields) ⟨parent, none, none⟩
        [("name", Json.string name), ("kind", Json.string kind.keyword)]
        ⟨parent, some name, some kind⟩ := by
    have named : Json.TakesMember (Json.readMember fields) ⟨parent, none, none⟩
        "name" (Json.string name) ⟨parent, some name, none⟩ := by
      intro rest ends
      rw [Json.readMember_field
        (show fields.find? (fun field => field.name == "name") =
          some ⟨"name", fun draft => draft.name.isSome, _⟩ by
            simp [fields]; rfl) rfl]
      simp [Json.reads_string name rest ends, Except.map]
    refine .cons named (.cons (fun rest ends => ?_) (.nil _))
    rw [Json.readMember_field
      (show fields.find? (fun field => field.name == "kind") =
        some ⟨"kind", fun draft => draft.kind.isSome, _⟩ by simp [fields]; rfl)
      rfl]
    simp [kind.reads_keyword rest ends, Except.map]
  cases parent with
  | none => exact tail none
  | some parent =>
      refine .cons (fun rest ends => ?_) (tail (some (some parent)))
      have reads :=
        (Json.reads_number (words parent rfl)).optional
          (Json.solid_number parent) (Json.number_head_ne parent)
      rw [Json.readMember_field
        (show fields.find? (fun field => field.name == "parent") =
          some ⟨"parent", fun draft => draft.parent.isSome, _⟩ by
            simp [fields]; rfl) rfl]
      simp [reads rest ends, Except.map]

theorem reads_encode
    {entry : Entry}
    (words : ∀ parent ∈ entry.parent, parent ≤ Word.max) :
    Json.Reads read entry.encode entry := by
  rw [encode_eq]
  exact Json.reads_structure (takes_members words) entry.finish_draft

theorem solid_encode (entry : Entry) :
    Json.Solid entry.encode := Json.solid_object _

end Entry

/-! ## Images -/

/-- The members of an image of entries give their draft. -/
theorem takes_members
    {txid : Nat}
    (word : txid ≤ Word.max)
    {entries : List Entry}
    (words : ∀ entry ∈ entries, ∀ parent ∈ entry.parent, parent ≤ Word.max) :
    Json.Takes (Json.readMember fields) ⟨none, none⟩
      [("txid", Json.number txid),
        ("entries", Json.array (entries.map Entry.encode))]
      ⟨some txid, some entries⟩ := by
  have numbered : Json.TakesMember (Json.readMember fields) ⟨none, none⟩ "txid"
      (Json.number txid) ⟨some txid, none⟩ := by
    intro rest ends
    rw [Json.readMember_field
      (show fields.find? (fun field => field.name == "txid") =
        some ⟨"txid", fun draft => draft.txid.isSome, _⟩ by simp [fields]; rfl)
      rfl]
    simp [Json.reads_number word rest ends, Except.map]
  have reads : Json.Reads (Json.readList Entry.read)
      (Json.array (entries.map Entry.encode)) entries :=
    Json.reads_array fun entry present =>
      ⟨Entry.reads_encode (words entry present), entry.solid_encode⟩
  refine .cons numbered (.cons (fun rest ends => ?_) (.nil _))
  rw [Json.readMember_field
    (show fields.find? (fun field => field.name == "entries") =
      some ⟨"entries", fun draft => draft.entries.isSome, _⟩ by
        simp [fields]; rfl) rfl]
  simp [reads rest ends, Except.map]

theorem decodeEntries_utf8
    {txid : Nat}
    (word : txid ≤ Word.max)
    {entries : List Entry}
    (words : ∀ entry ∈ entries, ∀ parent ∈ entry.parent, parent ≤ Word.max) :
    decodeEntries (Text.utf8 (encodeEntries txid entries)) =
      .ok (txid, entries) := by
  have reads :
      Json.Reads readEntries (encodeEntries txid entries) (txid, entries) :=
    Json.reads_structure (takes_members word words) rfl
  rw [decodeEntries, Text.decode_utf8, Json.readDocument_of_reads reads]
  rfl

/-- Each entry takes a byte of an image at least. -/
theorem size_le_length_encode (txid : Nat) (tree : Tree) :
    tree.size ≤ (encode txid tree).length := by
  have items : (entries tree).length ≤
      (Json.commaSeparated ((entries tree).map Entry.encode)).length := by
    rw [← List.length_map Entry.encode]
    refine Json.length_le_commaSeparated fun text present => ?_
    obtain ⟨entry, -, rfl⟩ := List.mem_map.mp present
    exact List.cons_ne_nil _ _
  have bytes := Text.length_le_length_utf8 (encodeEntries txid (entries tree))
  rw [show (entries tree).length = tree.size from
    length_entriesFrom none 0 tree] at items
  refine Nat.le_trans (Nat.le_trans items ?_) bytes
  simp only [encodeEntries, Json.object, Json.commaSeparated, Json.member,
    Json.array, List.length_append, List.length_cons]
  omega

/-- The image of a namespace is read as the namespace. -/
theorem decode_encode
    {txid : Nat}
    (word : txid ≤ Word.max)
    {tree : Tree}
    (wellFormed : tree.WellFormed)
    (isDirectory : tree.kind = .directory)
    (isRoot : tree.name = Tree.rootName)
    (words : tree.size ≤ Word.max) :
    decode (encode txid tree) = .ok ⟨txid, tree⟩ := by
  have parents : ∀ entry ∈ entries tree, ∀ parent ∈ entry.parent,
      parent ≤ Word.max := by
    intro entry present parent isParent
    have parentEarlier : ∀ place ∈ (none : Option Nat), place < 0 :=
      fun place isPlace => by cases isPlace
    have bound :=
      parent_lt_of_mem_entriesFrom parentEarlier present parent isParent
    omega
  rw [decode, encode, decodeEntries_utf8 word parents]
  simp [assemble_entries wellFormed isDirectory isRoot, bind, Except.bind, pure,
    Except.pure]

/-! ## Transaction ids -/

/-- No member of an image puts a transaction id in a draft that is not a
word. -/
theorem fields_keep_words :
    ∀ field ∈ fields, ∀ (draft : Draft) (text : Json.Symbols) (after : Draft)
      (rest : Json.Symbols), (∀ txid ∈ draft.txid, txid ≤ Word.max) →
      field.read draft text = .ok (after, rest) →
      ∀ txid ∈ after.txid, txid ≤ Word.max := by
  refine List.forall_mem_cons.mpr ⟨?_, List.forall_mem_singleton.mpr ?_⟩
  · intro draft text after rest _ isRead
    cases taken : Json.readWord text with
    | error fault => simp [taken, Except.map] at isRead
    | ok value =>
        simp only [taken, Except.map, Except.ok.injEq, Prod.mk.injEq] at isRead
        obtain ⟨rfl, -⟩ := isRead
        intro txid isTxid
        obtain rfl := Option.some.inj isTxid
        exact Json.le_max_of_readWord taken
  · intro draft text after rest words isRead
    cases taken : Json.readList Entry.read text with
    | error fault => simp [taken, Except.map] at isRead
    | ok value =>
        simp only [taken, Except.map, Except.ok.injEq, Prod.mk.injEq] at isRead
        obtain ⟨rfl, -⟩ := isRead
        exact words

/-- The transaction id of entries that are read is a word. -/
theorem txid_le_of_decodeEntries
    {content : List UInt8}
    {txid : Nat}
    {entries : List Entry}
    (decoded : decodeEntries content = .ok (txid, entries)) :
    txid ≤ Word.max := by
  unfold decodeEntries Json.readDocument at decoded
  cases taken : readEntries (Text.decode content) with
  | error fault => simp [taken, bind, Except.bind, Except.mapError] at decoded
  | ok outcome =>
      obtain ⟨value, rest⟩ := outcome
      obtain ⟨draft, words, finished⟩ := Json.readStructure_induction
        (fun draft : Draft => ∀ txid ∈ draft.txid, txid ≤ Word.max)
        fields_keep_words (fun txid isTxid => by cases isTxid) taken
      simp only [taken, bind, Except.bind] at decoded
      split at decoded
      · simp only [Except.mapError, Except.ok.injEq] at decoded
        subst decoded
        obtain ⟨held, isHeld, finished⟩ := Option.bind_eq_some_iff.mp finished
        obtain ⟨listed, -, finished⟩ := Option.bind_eq_some_iff.mp finished
        cases finished
        exact words _ isHeld
      · cases decoded

/-- The transaction id of an image that is read is a word. -/
theorem txid_le_of_decode
    {content : List UInt8}
    {image : Image}
    (decoded : decode content = .ok image) :
    image.txid ≤ Word.max := by
  unfold decode at decoded
  cases taken : decodeEntries content with
  | error cause => simp [taken, bind, Except.bind] at decoded
  | ok held =>
      obtain ⟨txid, entries⟩ := held
      simp only [taken, bind, Except.bind] at decoded
      split at decoded
      · cases decoded
      · cases decoded
        exact txid_le_of_decodeEntries taken

/-! ## Images in files -/

/-- Only the file of the image makes a difference to what is loaded. -/
theorem load_congr
    {disk after : Disk}
    {location : Location}
    (same : after.item? location = disk.item? location) :
    load after location = load disk location := by
  cases held : disk.item? location with
  | none => simp [load, Disk.has, same, held]
  | some item => cases item <;> simp [load, Disk.has, Disk.read, same, held]

/-- An image that can be decoded is loaded from its file. -/
theorem load_of_decode
    {disk : Disk}
    {location : Location}
    {content : Bytes}
    {image : Image}
    (held : disk.item? location = some (.file content))
    (decoded : decode content = .ok image) :
    load disk location = .ok (some image) := by
  simp [load, Disk.has, Disk.read, held, decoded]

end Image
end NameService
