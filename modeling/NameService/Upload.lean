import NameService.Checkpoint
import NameService.Recovery

/-!
# Image uploads

A Backup sends an image to the Primary as its length in eight bytes and its
content. The Primary stores it if it is a valid image that is not older than the
persisted checkpoint, and only then acknowledges it.
-/

namespace NameService
namespace Upload

/-- What the Primary sends once an image is stored. -/
def acknowledgement : Bytes := Text.utf8 "SUCCESS".toList

/-- The longest image that is accepted, in bytes. -/
def lengthLimit : Nat := Nat.pow 2 30

/-- The error of a stream that ends too early. -/
def endOfStream : ServiceError := .file (.other "unexpected end of file")

/-- An image as it is sent. -/
def frame (content : Bytes) : Bytes := Word.bigEndian content.length ++ content

/-- The image in a stream. What follows it is not looked at. -/
def payload (stream : Bytes) : Except ServiceError Bytes :=
  if stream.length < 8 then .error endOfStream
  else
    let length := Word.ofBigEndian (stream.take 8)
    if lengthLimit < length then .error (.input (.imageTooLong length))
    else
      let content := (stream.drop 8).take length
      if content.length < length then .error endOfStream else .ok content

/-- Check an image against the persisted checkpoint. The answer is its
transaction id. -/
def check (disk : Disk) (store : Checkpoint.Store) (content : Bytes) :
    Except ServiceError Nat :=
  match Image.decode content with
  | .error cause => .error (.tree cause)
  | .ok image =>
      match store.load disk with
      | .error cause => .error cause
      | .ok floor =>
          if image.txid < floor then
            .error (.input (.imageTooOld image.txid floor))
          else .ok image.txid

/-- Take an image from a stream and store it. The answer is its transaction
id. -/
def receive
    (disk : Disk)
    (location : Location)
    (store : Checkpoint.Store)
    (stream : Bytes) :
    Disk × Except ServiceError Nat :=
  match payload stream with
  | .error cause => (disk, .error cause)
  | .ok content =>
      match check disk store content with
      | .error cause => (disk, .error cause)
      | .ok txid =>
          match disk.replace location content with
          | (disk, .error cause) => (disk, .error (.file cause))
          | (disk, .ok ()) => (disk, .ok txid)

/-- What the Primary sends back. -/
def reply : Except ServiceError Nat → Bytes
  | .ok _ => acknowledgement
  | .error _ => []

/-- What a reply means to the sender. -/
def acknowledged (received : Bytes) : Except ServiceError Unit :=
  if received = acknowledgement then .ok ()
  else
    .error (.network (.notAcknowledged
      (String.ofList
        ((Text.decode received).map fun position => position.getD '\ufffd'))))

end Upload
end NameService
