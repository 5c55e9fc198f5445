import HttpRequest.Text.Split
import HttpRequest.Text.Utf8

/-! # Header fields

Header fields keep the order in which they were sent; a name may occur several times and is not
case sensitive. A value counts as text only if each of its bytes is a printable ASCII character, a
space or a tab, and any other value is read as if it were absent.
-/
namespace HttpRequest

/-- The fields in the order sent, names in lower case. -/
structure Headers where
  fields : List (String × Octets) := []
deriving DecidableEq, Repr, Inhabited

namespace Headers

def ofList (fields : List (String × Octets)) : Headers :=
  ⟨fields.map fun (name, value) => (lowerAscii name, value)⟩

def isTextByte (b : UInt8) : Bool :=
  (0x20 ≤ b && b ≤ 0x7E) || b == 0x09

def valueText? (value : Octets) : Option String :=
  if value.all isTextByte then some (String.ofList (value.map fun b => Char.ofNat b.toNat))
  else none

def values (h : Headers) (name : String) : List Octets :=
  (h.fields.filter fun field => field.1 == lowerAscii name).map (·.2)

def text? (h : Headers) (name : String) : Option String :=
  (h.values name).head?.bind valueText?

def texts (h : Headers) (name : String) : List String :=
  (h.values name).filterMap valueText?

end Headers

end HttpRequest
