import HttpRequest.Header.Fields

/-! # Request identifiers

An identifier is a number of 128 bits, written with twenty-six digits of base thirty-two. The digits
are those of Crockford, in which four letters are left out because they look like others. The two
bits that twenty-six digits have to spare are dropped when reading.
-/
namespace HttpRequest

structure RequestId where
  value : Nat
deriving DecidableEq, Repr, Inhabited

namespace RequestId

def alphabet : List Char :=
  "0123456789ABCDEFGHJKMNPQRSTVWXYZ".toList

def width : Nat := 26

inductive Fault where
  | invalidLength
  | invalidCharacter
deriving DecidableEq, Repr

def Fault.message : Fault → String
  | .invalidLength => "invalid length"
  | .invalidCharacter => "invalid character"

def digit? (c : Char) : Option Nat :=
  alphabet.findIdx? (· == c.toUpper)

def readDigits (cs : List Char) : Except Fault Nat :=
  cs.foldlM (fun value c =>
    match digit? c with
    | some d => .ok (value * 32 + d)
    | none => .error .invalidCharacter) 0

def parse (text : String) : Except Fault RequestId :=
  if text.utf8ByteSize = width then (readDigits text.toList).map fun n => ⟨n % Nat.pow 2 128⟩
  else .error .invalidLength

def digitsOf : Nat → Nat → List Char → List Char
  | 0, _, text => text
  | n + 1, value, text => digitsOf n (value / 32) (alphabet.getD (value % 32) '0' :: text)

def text (id : RequestId) : String :=
  String.ofList (digitsOf width id.value [])

def headerName : String := "x-request-id"

def ofValue? (value : Option String) : Option RequestId :=
  value.bind fun text => (parse (trimText text)).toOption

def ofHeaders? (h : Headers) : Option RequestId :=
  ofValue? (h.text? headerName)

end RequestId

end HttpRequest
