import NameService.Proofs.Checkpoint.Store
import NameService.Proofs.Image.Codec
import NameService.Proofs.Word
import NameService.Remote

/-!
# Images that are uploaded

Both ends of the image channel agree on its frames. An upload that is
acknowledged has stored the image, and the image is not older than the persisted
checkpoint. One that is not has at most touched the scratch file of the image.
-/

namespace NameService

namespace Upload

variable {disk : Disk} {stream content : Bytes}

/-! ## Frames -/

/-- A stream carries a content if it starts with the length of the content, in
eight bytes, and the content. Anything may follow. -/
def Carries (stream content : Bytes) : Prop :=
  ∃ header rest, header.length = 8 ∧ Word.ofBigEndian header = content.length ∧
    stream = header ++ content ++ rest

/-- The payload of a stream is what it carries, unless that is too long. -/
theorem payload_eq_ok_iff :
    payload stream = .ok content ↔
      Carries stream content ∧ content.length ≤ lengthLimit := by
  constructor
  · intro arrived
    rw [payload] at arrived
    split at arrived
    · cases arrived
    · rename_i whole
      simp only at arrived
      split at arrived
      · cases arrived
      · rename_i short
        split at arrived
        · cases arrived
        · rename_i enough
          cases arrived
          -- The payload is no shorter than announced, and as a prefix of that
          -- length no longer.
          have length :
              ((stream.drop 8).take (Word.ofBigEndian (stream.take 8))).length =
              Word.ofBigEndian (stream.take 8) :=
            Nat.le_antisymm (List.length_take_le _ _) (Nat.le_of_not_lt enough)
          refine ⟨⟨stream.take 8,
            (stream.drop 8).drop (Word.ofBigEndian (stream.take 8)), ?_,
            length.symm, ?_⟩, length.symm ▸ Nat.le_of_not_lt short⟩
          · rw [List.length_take]
            omega
          · rw [List.append_assoc, List.take_append_drop, List.take_append_drop]
  · rintro ⟨⟨header, rest, eight, length, rfl⟩, short⟩
    have first : (header ++ content ++ rest).take 8 = header := by
      rw [List.append_assoc, List.take_left' eight]
    have behind : (header ++ content ++ rest).drop 8 = content ++ rest := by
      rw [List.append_assoc, List.drop_left' eight]
    have whole : ¬ (header ++ content ++ rest).length < 8 := by
      simp only [List.length_append]
      omega
    rw [payload, if_neg whole, first, behind, length]
    simp only
    rw [if_neg (Nat.not_lt.mpr short), List.take_left, if_neg (Nat.lt_irrefl _)]

/-- A frame carries its content, if the length of that is a word. -/
theorem carries_frame (word : content.length ≤ Word.max) :
    Carries (frame content) content :=
  ⟨Word.bigEndian content.length, [], by simp [Word.bigEndian],
    Word.ofBigEndian_bigEndian word, by rw [frame, List.append_nil]⟩

/-- A frame carries nothing but its content. -/
theorem Carries.eq_of_frame
    (word : content.length ≤ Word.max)
    {other : Bytes}
    (carries : Carries (frame content) other) :
    other = content := by
  obtain ⟨header, rest, eight, length, same⟩ := carries
  rw [frame, List.append_assoc] at same
  obtain ⟨sameHeader, sameBody⟩ :=
    List.append_inj same (by rw [eight]; simp [Word.bigEndian])
  rw [← sameHeader, Word.ofBigEndian_bigEndian word] at length
  exact (show other <+: content from ⟨rest, sameBody.symm⟩).eq_of_length
    length.symm

/-! ## Checks -/

/-- An image that passes the check is not older than the persisted
checkpoint. -/
theorem floor_le_of_check
    {store : Checkpoint.Store}
    {image : Image}
    {floor txid : Nat}
    (decoded : Image.decode content = .ok image)
    (loaded : store.load disk = .ok floor)
    (checked : check disk store content = .ok txid) :
    floor ≤ image.txid := by
  simp only [check, decoded, loaded] at checked
  split at checked
  · cases checked
  · rename_i recent
    exact Nat.le_of_not_lt recent

/-- An image passes the check if it is valid and not older than the persisted
checkpoint. -/
theorem check_eq_ok_iff {store : Checkpoint.Store} :
    (∃ txid, check disk store content = .ok txid) ↔
      ∃ image floor, Image.decode content = .ok image ∧
        store.load disk = .ok floor ∧
        floor ≤ image.txid := by
  constructor
  · rintro ⟨txid, checked⟩
    cases decoded : Image.decode content with
    | error cause => simp [check, decoded] at checked
    | ok image =>
        cases loaded : store.load disk with
        | error cause => simp [check, decoded, loaded] at checked
        | ok floor =>
            exact ⟨image, floor, rfl, rfl,
              floor_le_of_check decoded loaded checked⟩
  · rintro ⟨image, floor, decoded, loaded, recent⟩
    exact ⟨image.txid, by simp [check, decoded, loaded, Nat.not_lt.mpr recent]⟩

/-! ## Streams -/

/-- What comes of a stream: its content does not arrive or does not pass the
check, and nothing is touched, or it is to replace the image, which succeeds or
not. -/
theorem receive_cases
    (disk : Disk)
    (location : Location)
    (store : Checkpoint.Store)
    (stream : Bytes) :
    (∃ cause, receive disk location store stream = (disk, .error cause) ∧
        ∀ content, payload stream = .ok content →
        check disk store content = .error cause) ∨
      ∃ content txid after, payload stream = .ok content ∧
        check disk store content = .ok txid ∧
        ((∃ fault, disk.replace location content = (after, .error fault) ∧
            receive disk location store stream =
              (after, .error (.file fault))) ∨
          disk.replace location content = (after, .ok ()) ∧
            receive disk location store stream = (after, .ok txid)) := by
  unfold receive
  cases arrived : payload stream with
  | error cause => exact .inl ⟨cause, rfl, nofun⟩
  | ok content =>
      simp only
      cases checked : check disk store content with
      | error cause =>
          exact .inl
            ⟨cause, rfl, fun other same => Except.ok.inj same ▸ checked⟩
      | ok txid =>
          cases replaced : disk.replace location content with
          | mk after answer =>
              cases answer with
              | error fault =>
                  exact .inr
                    ⟨content, txid, after, rfl, checked,
                      .inl ⟨fault, replaced, rfl⟩⟩
              | ok _ =>
                  exact .inr
                    ⟨content, txid, after, rfl, checked, .inr ⟨replaced, rfl⟩⟩

/-- A stream leaves the disk alone, or it has the image replaced by a valid one,
whether that succeeds or not. -/
theorem receive_leaves
    (disk : Disk)
    (location : Location)
    (store : Checkpoint.Store)
    (stream : Bytes) :
    (receive disk location store stream).1 = disk ∨
      ∃ content image answer, Image.decode content = .ok image ∧
        disk.replace location content =
          ((receive disk location store stream).1, answer) := by
  rcases receive_cases disk location store stream with ⟨cause, received, -⟩ |
    ⟨content, txid, after, -, checked, stored⟩
  · exact .inl (congrArg Prod.fst received)
  · obtain ⟨image, -, decoded, -⟩ := check_eq_ok_iff.mp ⟨txid, checked⟩
    rcases stored with ⟨fault, replaced, received⟩ | ⟨replaced, received⟩
    · exact .inr ⟨content, image, _, decoded, by rw [received, replaced]⟩
    · exact .inr ⟨content, image, _, decoded, by rw [received, replaced]⟩

/-! ## Replies -/

theorem nil_ne_acknowledgement : ([] : Bytes) ≠ acknowledgement := by decide

/-- A sender that is sent nothing is told that the image was not uploaded. -/
theorem acknowledged_nil : ∃ cause, acknowledged [] = .error cause :=
  ⟨_, if_neg nil_ne_acknowledgement⟩

end Upload

namespace Remote

open Upload

/-- The sender is told whether what it sent was acknowledged. -/
theorem uploadImage_eq (content : Bytes) (disk : Disk) (primary : Primary) :
    uploadImage content disk (some primary) =
      let received :=
        receive disk primary.settings.imageLocation
          primary.settings.checkpointStore (frame content)
      ⟨received.1, some primary, acknowledged (reply received.2)⟩ := by
  simp [uploadImage, ask, sendImage, Outcome.mapAnswer, Except.mapError,
    Except.bind]

/-- An upload that is acknowledged has stored the image, which passed the
checks. One that is not left the disk alone, or failed to replace the image. -/
theorem uploadImage_cases
    {content : Bytes}
    (word : content.length ≤ Word.max)
    (disk : Disk)
    (primary : Primary) :
    ((uploadImage content disk (some primary)).answer = .ok () ∧
        (∃ txid,
          check disk primary.settings.checkpointStore content = .ok txid) ∧
        disk.replace primary.settings.imageLocation content =
          ((uploadImage content disk (some primary)).disk, .ok ())) ∨
      (∃ cause,
        (uploadImage content disk (some primary)).answer = .error cause) ∧
        ((uploadImage content disk (some primary)).disk = disk ∨
          ∃ error, disk.replace primary.settings.imageLocation content =
            ((uploadImage content disk (some primary)).disk,
              .error error)) := by
  rw [uploadImage_eq]
  simp only
  rcases receive_cases disk primary.settings.imageLocation
    primary.settings.checkpointStore (frame content) with ⟨cause, received, -⟩ |
    ⟨other, txid, after, arrived, checked, stored⟩
  · rw [received]
    exact .inr ⟨acknowledged_nil, .inl rfl⟩
  · obtain rfl : other = content :=
      (payload_eq_ok_iff.mp arrived).1.eq_of_frame word
    rcases stored with ⟨fault, replaced, received⟩ | ⟨replaced, received⟩
    · rw [received]
      exact .inr ⟨acknowledged_nil, .inr ⟨fault, replaced⟩⟩
    · rw [received]
      exact .inl ⟨if_pos rfl, ⟨txid, checked⟩, replaced⟩

end Remote
end NameService
