import HttpRequest.Text.Utf8

/-! # Percent escapes

An escape is a percent sign followed by two hexadecimal digits and stands for one byte. A text is read
twice. The first reading goes from the left past whole escapes and refuses a percent sign that is not
followed by two such digits. The second puts its byte in place of every escape; it would leave a percent
sign that begins none as it is.
-/
namespace HttpRequest.Escape

def hexValue? (b : UInt8) : Option UInt8 :=
  if 0x30 ≤ b ∧ b ≤ 0x39 then some (b - 0x30)
  else if 0x41 ≤ b ∧ b ≤ 0x46 then some (b - 0x37)
  else if 0x61 ≤ b ∧ b ≤ 0x66 then some (b - 0x57)
  else none

def escaped? (x y : UInt8) : Option UInt8 :=
  match hexValue? x, hexValue? y with
  | some high, some low => some (high * 16 + low)
  | _, _ => none

def isHexDigit (b : UInt8) : Bool :=
  (0x30 ≤ b && b ≤ 0x39) || (0x41 ≤ b && b ≤ 0x46) || (0x61 ≤ b && b ≤ 0x66)

/-- Whether two hexadecimal digits follow every percent sign that is met past whole escapes. -/
def wellFormed : Octets → Bool
  | [] => true
  | b :: bs =>
    if b = 0x25 then
      match bs with
      | x :: y :: rest => isHexDigit x && isHexDigit y && wellFormed rest
      | _ => false
    else wellFormed bs

/-- Puts its byte in place of every escape and keeps all other bytes, those read so far in reverse. -/
def undoFrom : Octets → Octets → Octets
  | read, [] => read.reverse
  | read, b :: bs =>
    if b = 0x25 then
      match bs with
      | x :: y :: rest =>
        match escaped? x y with
        | some c => undoFrom (c :: read) rest
        | none => undoFrom (b :: read) (x :: y :: rest)
      | short => read.reverse ++ b :: short
    else undoFrom (b :: read) bs

def undo (bs : Octets) : Octets :=
  undoFrom [] bs

/-- The bytes that `bs` stands for, unless a percent sign stands alone. -/
def decode? (bs : Octets) : Option Octets :=
  if wellFormed bs then some (undo bs) else none

def plusToSpace (bs : Octets) : Octets :=
  bs.map fun b => if b = 0x2B then 0x20 else b

end HttpRequest.Escape
