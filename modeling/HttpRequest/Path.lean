import HttpRequest.Text.Charset
import HttpRequest.Text.Escape

/-! # Paths

A path is a text whose segments are parted by slashes. Canonical form resolves the segments `.` and
`..` from left to right with a stack and refuses a path that climbs above the root; a path is decoded
before it is made canonical, so escaped dots and slashes count. Joining puts exactly one slash
between two parts.
-/
namespace HttpRequest

def badUri : Failure :=
  .badRequest "Bad URI"

namespace Path

/-- Escapes undone, the bytes read as UTF-8 if they are and as ISO-8859-1 if not. -/
def decode (path : String) : Except Failure String :=
  match Escape.decode? (octetsOf path) with
  | none => .error badUri
  | some bs =>
    match Utf8.decode? bs with
    | some text => .ok text
    | none => .ok (String.ofList (Charset.latin1Chars bs))

abbrev Segment := List Char

/-- An empty segment at the end keeps the final slash of a path whose last segment goes away. -/
def closeLast (rest kept : List Segment) : List Segment :=
  if rest.isEmpty then [] :: kept else kept

/-- Resolves the segments to come against those kept so far, nearest first. -/
def resolve : List Segment → List Segment → Option (List Segment)
  | kept, [] => some kept.reverse
  | kept, s :: rest =>
    if s == ['.'] then resolve (closeLast rest kept) rest
    else if s == ['.', '.'] then
      match kept with
      | [] => none
      | _ :: kept => resolve (closeLast rest kept) rest
    else resolve (s :: kept) rest

def ofSegments (segments : List Segment) : List Char :=
  '/' :: ['/'].intercalate segments

/-- The path without `.` and `..`, unless it climbs above the root. Only absolute paths change. -/
def canonicalChars? (path : List Char) : Option (List Char) :=
  match path with
  | '/' :: rest => (resolve [] (rest.splitOn '/')).map ofSegments
  | _ => some path

def canonical? (path : String) : Option String :=
  (canonicalChars? path.toList).map String.ofList

def compactChars (path : List Char) : List Char :=
  path.foldr (fun c rest => if c == '/' && rest.head? == some '/' then rest else c :: rest) []

def compact (path : String) : String :=
  String.ofList (compactChars path.toList)

/-- Joins two parts with one slash between them; an empty part adds none. -/
def joinChars (base path : List Char) : List Char :=
  if base.getLast? == some '/' && path.head? == some '/' then base ++ path.drop 1
  else if base.getLast? != some '/' && path.head? != some '/' && !base.isEmpty && !path.isEmpty then
    base ++ '/' :: path
  else base ++ path

def join (base path : String) : String :=
  String.ofList (joinChars base.toList path.toList)

def parentChars (path : List Char) : List Char :=
  (path.reverse.dropWhile (· != '/')).reverse

def parent (path : String) : String :=
  String.ofList (parentChars path.toList)

/-- A path and the query behind the first question mark, where an empty query counts as absent. -/
def splitQuery (target : String) : String × Option String :=
  match cutAt '?' target.toList with
  | (path, some (c :: query)) => (String.ofList path, some (String.ofList (c :: query)))
  | (path, _) => (String.ofList path, none)

end Path

end HttpRequest
