import NameService.Text.Split

/-!
# Media types

Whether a content type announces JSON: the type `application` with the subtype
`json` or the structure suffix `json`, in either case, with any parameters.
-/

namespace NameService
namespace Http

/-- Whether a character may stand in the names of a media type. -/
def isTokenChar (c : Char) : Bool :=
  c.isAlphanum || "!#$%&'*+-.^_`|~".toList.contains c

/-- Whether a character may stand in a quoted parameter. -/
def isQuotedChar (c : Char) : Bool := 32 ≤ c.toNat && c.toNat < 127

/-- Step over the rest of a quoted value, its closing quote, and blanks up to a
semicolon. -/
def skipQuotedRest : List Char → Option (List Char)
  | [] => none
  | c :: rest =>
      if c = '"' then
        match rest.dropWhile (· == ' ') with
        | [] => some []
        | ';' :: rest => some rest
        | _ => none
      else if isQuotedChar c then skipQuotedRest rest
      else none

/-- Step over a quoted value after its opening quote. The value is not empty, so
its first character may also be a quote. -/
def skipQuotedValue : List Char → Option (List Char)
  | [] => none
  | c :: rest => if isQuotedChar c then skipQuotedRest rest else none

/-- Step over a parameter value and the semicolon behind it. -/
def skipValue (text : List Char) : Option (List Char) :=
  match text with
  | '"' :: rest => skipQuotedValue rest
  | _ =>
      match text.span isTokenChar with
      | (_, []) => some []
      | (_ :: _, ';' :: rest) => some rest
      | _ => none

/-- Whether a text is a row of parameters. Each takes a character at least, so
the length is fuel enough. -/
def areParameters : Nat → List Char → Bool
  | _, [] => true
  | 0, _ => false
  | fuel + 1, text =>
      match (text.dropWhile (· == ' ')).span isTokenChar with
      | ([], []) => true
      | (_ :: _, '=' :: rest) =>
          match skipValue rest with
          | none => false
          | some rest => areParameters fuel rest
      | _ => false

/-- A subtype and its structure suffix, which stands behind the last plus sign
that is not the first character. -/
def structureSuffix : List Char → List Char × Option (List Char)
  | [] => ([], none)
  | first :: rest =>
      match Text.splitAtLast (· == '+') rest with
      | none => (first :: rest, none)
      | some (stem, suffix) => (first :: stem, some suffix)

/-- Whether a content type announces JSON. -/
def announcesJson (contentType : String) : Bool :=
  match (contentType.toList.map Char.toLower).span isTokenChar with
  | (type, '/' :: rest) =>
      let (subtype, rest) := rest.span isTokenChar
      let (stem, suffix) := structureSuffix subtype
      let parameters :=
        match rest with
        | [] => true
        | ';' :: rest => areParameters (rest.length + 1) rest
        | _ => false
      type == "application".toList && !subtype.isEmpty && parameters &&
        (stem == "json".toList || suffix == some "json".toList)
  | _ => false

example : announcesJson "application/json" ∧
    announcesJson "APPLICATION/vnd.api+json; q=1" ∧
    ¬ announcesJson "text/json" ∧ ¬ announcesJson "application/jsonx" := by
  decide

example : announcesJson "application/json+zip" ∧
    announcesJson "application/++json" ∧
    ¬ announcesJson "application/+json" ∧
    ¬ announcesJson "application/json++" := by decide

end Http
end NameService
