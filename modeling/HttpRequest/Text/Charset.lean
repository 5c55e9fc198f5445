import HttpRequest.Failure
import HttpRequest.Text.Split
import HttpRequest.Text.Utf8

/-! # Character encodings and content types

Two encodings are known. UTF-8 refuses bytes that are not UTF-8; ISO-8859-1 reads every byte as the
character of the same number. A content type is a media type followed by parameters, of which
`charset` names an encoding.
-/
namespace HttpRequest

inductive Charset where
  | utf8
  | latin1
deriving DecidableEq, Repr

namespace Charset

def name : Charset → String
  | .utf8 => "UTF-8"
  | .latin1 => "ISO-8859-1"

/-- Looks an encoding up by any of its names, in either case, with or without quotes. -/
def ofName? (name : String) : Option Charset :=
  match String.ofList ((trimQuotes (trim name.toList)).map Char.toLower) with
  | "utf-8" | "utf8" => some .utf8
  | "iso-8859-1" | "iso8859-1" | "iso_8859_1" | "iso_8859-1" | "latin1" | "l1" => some .latin1
  | _ => none

def named (name : String) : Except Failure Charset :=
  match ofName? name with
  | some charset => .ok charset
  | none => .error (.unsupportedEncoding name)

def latin1Chars (bs : Octets) : List Char :=
  bs.map fun b => Char.ofNat b.toNat

def decode? (charset : Charset) (bs : Octets) : Option String :=
  match charset with
  | .utf8 => Utf8.decode? bs
  | .latin1 => some (String.ofList (latin1Chars bs))

end Charset

namespace ContentType

def charsetOfParameter? (parameter : List Char) : Option (List Char) :=
  match cutAt '=' parameter with
  | (_, none) => none
  | (name, some value) =>
    if (trim name).map Char.toLower == "charset".toList then
      let value := trimQuotes (trim value)
      if value.isEmpty then none else some value
    else none

def charset? (contentType : String) : Option String :=
  ((contentType.toList.splitOn ';').drop 1).findSome? charsetOfParameter? |>.map String.ofList

def mediaType (contentType : String) : String :=
  String.ofList ((trim (cutAt ';' contentType.toList).1).map Char.toLower)

end ContentType

end HttpRequest
