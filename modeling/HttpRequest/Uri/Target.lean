import HttpRequest.Uri.Authority

/-! # Request targets

A target is an absolute path with an optional query, an absolute address with a scheme and an
authority, an authority alone, or an asterisk. A fragment is dropped. The characters allowed in a
path and in a query are those that need no escape, and a few that are commonly sent without one.
-/
namespace HttpRequest.Target

structure Parts where
  scheme : Option (List Char) := none
  authority : List Char := []
  path : List Char := []
  query : Option (List Char) := none
deriving DecidableEq, Repr

def maxSize : Nat := 65534

/-- The longest scheme other than the two well known ones. -/
def maxScheme : Nat := 64

def isPathChar (c : Char) : Bool :=
  let n := c.toNat
  n == 0x21 || n == 0x22 || (0x24 ≤ n && n ≤ 0x3B) || n == 0x3D || (0x40 ≤ n && n ≤ 0x5F) ||
    (0x61 ≤ n && n ≤ 0x7E) || 0x80 ≤ n

def isQueryChar (c : Char) : Bool :=
  let n := c.toNat
  n == 0x21 || (0x24 ≤ n && n ≤ 0x3B) || n == 0x3D || (0x3F ≤ n && n ≤ 0x7E) || 0x80 ≤ n

def isSchemeChar (c : Char) : Bool :=
  c.isAlphanum || c == '+' || c == '.' || c == '~' || c == '-'

def pathQuery? (text : List Char) : Option (List Char × Option (List Char)) :=
  let text := text.takeWhile (· != '#')
  let (path, query) := cutAt '?' text
  if path.all isPathChar && (query.getD []).all isQueryChar then some (path, query) else none

def orRoot (path : List Char) : List Char :=
  if path.isEmpty then ['/'] else path

inductive SchemePart where
  | none
  | tooLong
  | found (scheme rest : List Char)

def schemePart (text : List Char) : SchemePart :=
  let lower := text.map Char.toLower
  match after? "http://".toList lower, after? "https://".toList lower with
  | some _, _ => .found "http".toList (text.drop 7)
  | _, some _ => .found "https".toList (text.drop 8)
  | none, none =>
    if text.length ≤ 3 then .none
    else
      let scheme := text.takeWhile isSchemeChar
      match after? "://".toList (text.dropWhile isSchemeChar) with
      | none => .none
      | some rest => if scheme.length > maxScheme then .tooLong else .found scheme rest

def absolute? (scheme text : List Char) : Option Parts :=
  match Authority.split? text with
  | some (c :: authority, rest) =>
    (pathQuery? rest).map fun (path, query) =>
      { scheme := some scheme, authority := c :: authority, path := orRoot path, query }
  | _ => none

def read? (text : List Char) : Option Parts :=
  if text.isEmpty || maxSize < String.utf8ByteSize (String.ofList text) then none
  else match text with
    | ['*'] => some { path := ['*'] }
    | '/' :: _ => (pathQuery? text).map fun (path, query) => { path, query }
    | _ =>
      match schemePart text with
      | .tooLong => none
      | .found scheme rest => absolute? scheme rest
      | .none => (Authority.whole? text).map fun authority => { authority }

end HttpRequest.Target
