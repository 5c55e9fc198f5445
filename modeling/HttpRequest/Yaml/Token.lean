import HttpRequest.Yaml.Scalar
import HttpRequest.Yaml.Tag

/-! # Tokens of a YAML text

A token is a mark, a scalar, or the beginning or end of a collection. Collections outside of brackets have
tokens of their own, although only their indentation shows where they begin and end.
-/
namespace HttpRequest.Yaml

inductive Token where
  | version (major minor : Nat)
  | knownHandle (handle : List Char) (stem : Octets)
  | documentStart
  | documentEnd
  | blockSequence
  | blockMapping
  | blockEnd
  | flowSequence
  | flowSequenceEnd
  | flowMapping
  | flowMappingEnd
  | comma
  | item
  | key
  | value
  | alias (name : List Char)
  | anchor (name : List Char)
  | tag (name : TagName)
  | scalar (s : Scalar)
deriving DecidableEq, Repr

namespace Token

def isDirective : Token → Bool
  | .version .. | .knownHandle .. => true
  | _ => false

/-- Reads the digits of a version. More than nine cannot be read. -/
def versionNumber? (c : Cursor) : Option (Nat × Cursor) :=
  let digits := c.run Char.isDigit
  if 9 < digits.length then none
  else (Number.digits? 10 digits).map fun n => (n, c.skip digits.length)

def version? (c : Cursor) : Option (Token × Cursor) := do
  let (major, c) ← versionNumber? (c.skipWhile isWhite)
  if c.rest.head? != some '.' then failure
  let (minor, c) ← versionNumber? (c.skip 1)
  return (.version major minor, c)

def knownHandle? (c : Cursor) : Option (Token × Cursor) := do
  let c := c.skipWhile isWhite
  let handle := TagName.handleAt c
  let behind := c.skip handle.length
  if c.rest.head? != some '!' || !(handle == ['!'] || TagName.isClosed handle) then failure
  if !behind.rest.head?.any isWhite then failure
  let (stem, c) ← TagName.nonemptySuffix? true (behind.skipWhile isWhite)
  if endsWord c.rest then some (.knownHandle handle stem, c) else none

def directive? (c : Cursor) : Option (Token × Cursor) := do
  let name := c.run isWord
  let behind := c.skip name.length
  if !endsWord behind.rest then failure
  let (token, c) ←
    if name == "YAML".toList then version? behind
    else if name == "TAG".toList then knownHandle? behind
    else none
  return (token, ← c.endLine?)

end Token

end HttpRequest.Yaml
