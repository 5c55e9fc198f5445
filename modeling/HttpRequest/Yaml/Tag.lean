import HttpRequest.Yaml.Cursor
import HttpRequest.Text.Utf8
import HttpRequest.Number.Integer

/-! # Tags and anchors

A tag stands between angle brackets or is a handle with a suffix; the handles `!` and `!!` are always
known, and directives make others known. Suffixes are octets, as escapes may stand for any part of a
character, and end at a zero octet. Anchors are names.
-/
namespace HttpRequest.Yaml

/-- A tag as it is written. A tag without a handle is complete. -/
structure TagName where
  handle : List Char
  suffix : Octets
deriving DecidableEq, Repr

namespace TagName

def knownHandles : List (List Char × Octets) :=
  [(['!'], "!".toUTF8.toList), (['!', '!'], "tag:yaml.org,2002:".toUTF8.toList)]

def integer : Octets :=
  "tag:yaml.org,2002:int".toUTF8.toList

def resolve? (handles : List (List Char × Octets)) (t : TagName) : Option Octets :=
  if t.handle.isEmpty then some t.suffix else (handles.lookup t.handle).map (· ++ t.suffix)

/-- Characters of suffixes; between angle brackets and in directives the marks of sequences too. -/
def isSuffixChar (whole : Bool) (c : Char) : Bool :=
  isWord c || ";/?:@&=+$.!~*\x27()".toList.contains c || (whole && ",[]".toList.contains c)

def followers? (octet : UInt8) : Option Nat :=
  if octet &&& 0x80 == 0 then some 0
  else if octet &&& 0xE0 == 0xC0 then some 1
  else if octet &&& 0xF0 == 0xE0 then some 2
  else if octet &&& 0xF8 == 0xF0 then some 3
  else none

/-- How many octets of a character are still to come behind an escaped one, where `due` were before. -/
def stillDue? (due : Nat) (octet : UInt8) : Option Nat :=
  if due == 0 then followers? octet
  else if octet &&& 0xC0 == 0x80 then some (due - 1)
  else none

def escapedOctet? (high low : Char) : Option UInt8 :=
  (Number.digits? 16 [high, low]).map UInt8.ofNat

/-- Reads a suffix; what was read before in reverse. All octets of a character are escaped or none. -/
def suffix? (whole : Bool) (due : Nat) (read : Octets) (m : Mark) :
    List Char → Option (Octets × Cursor)
  | [] => if due == 0 then some (read.reverse, ⟨m, []⟩) else none
  | '%' :: high :: low :: rest =>
    match escapedOctet? high low with
    | some octet =>
      match stillDue? due octet with
      | some due => suffix? whole due (octet :: read) (m.advance 3) rest
      | none => none
    | none => none
  | c :: rest =>
    if due != 0 || c == '%' then none
    else if isSuffixChar whole c then suffix? whole 0 (UInt8.ofNat c.toNat :: read) m.next rest
    else some (read.reverse, ⟨m, c :: rest⟩)

/-- A suffix up to its first zero octet, with the cursor behind all of it, unless nothing stands here. -/
def nonemptySuffix? (whole : Bool) (c : Cursor) : Option (Octets × Cursor) :=
  match suffix? whole 0 [] c.mark c.rest with
  | some ([], _) => none
  | read => read.map fun (octets, c) => (octets.takeWhile (· != 0), c)

/-- The handle at a cursor on an exclamation mark, with or without a second one behind its name. -/
def handleAt (c : Cursor) : List Char :=
  let name := (c.skip 1).run isWord
  let behind := c.rest.drop (name.length + 1)
  '!' :: name ++ if behind.head? == some '!' then ['!'] else []

def isClosed (handle : List Char) : Bool :=
  2 ≤ handle.length && handle.getLast? == some '!'

def shorthand (suffix : Octets) : TagName :=
  if suffix.isEmpty then ⟨[], "!".toUTF8.toList⟩ else ⟨['!'], suffix⟩

def read? (c : Cursor) : Option (TagName × Cursor) :=
  if (c.rest.drop 1).head? == some '<' then do
    let (suffix, next) ← nonemptySuffix? true (c.skip 2)
    if next.rest.head? == some '>' then some (⟨[], suffix⟩, next.skip 1) else none
  else
    let handle := handleAt c
    let behind := c.skip handle.length
    if isClosed handle then do
      let (suffix, next) ← nonemptySuffix? false behind
      return (⟨handle, suffix⟩, next)
    else do
      let (octets, next) ← suffix? false 0 [] behind.mark behind.rest
      let suffix := (handle.drop 1).map (UInt8.ofNat ·.toNat) ++ octets
      return (shorthand (suffix.takeWhile (· != 0)), next)

end TagName

def anchorName? (c : Cursor) : Option (List Char × Cursor) :=
  let name := c.run isWord
  let next := c.skip name.length
  let ends := endsWord next.rest || next.rest.head?.any "?:,]\x7d%@\x60".toList.contains
  if name.isEmpty || !ends then none else some (name, next)

end HttpRequest.Yaml
