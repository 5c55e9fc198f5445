/-! # UTF-8 one byte at a time

A decoder reads one byte after another. Between two bytes it is either at the start of a character
or inside a sequence, where it knows how many bytes are missing, the range of the next one, and the
bits read so far. Strict decoding refuses any byte that does not fit; lossy decoding puts one
replacement character in place of each refused sequence and reads the byte again from the start.
As both are folds over the bytes, how the bytes are cut into chunks does not matter.
-/
namespace HttpRequest

abbrev Octets := List UInt8

namespace Utf8

inductive State where
  | start
  | inside (left : Nat) (low high : UInt8) (bits : Nat)
deriving DecidableEq, Repr

inductive Reply where
  | wait (next : State)
  | char (c : Char)
  | refused
deriving DecidableEq

/-- The first byte of a sequence fixes its length and the range of the second byte. -/
def first (b : UInt8) : Reply :=
  if b < 0x80 then .char (Char.ofNat b.toNat)
  else if 0xC2 ≤ b ∧ b ≤ 0xDF then .wait (.inside 1 0x80 0xBF (b.toNat - 0xC0))
  else if b = 0xE0 then .wait (.inside 2 0xA0 0xBF 0)
  else if b = 0xED then .wait (.inside 2 0x80 0x9F 0xD)
  else if 0xE1 ≤ b ∧ b ≤ 0xEF then .wait (.inside 2 0x80 0xBF (b.toNat - 0xE0))
  else if b = 0xF0 then .wait (.inside 3 0x90 0xBF 0)
  else if 0xF1 ≤ b ∧ b ≤ 0xF3 then .wait (.inside 3 0x80 0xBF (b.toNat - 0xF0))
  else if b = 0xF4 then .wait (.inside 3 0x80 0x8F 4)
  else .refused

def later (left : Nat) (low high : UInt8) (bits : Nat) (b : UInt8) : Reply :=
  if low ≤ b ∧ b ≤ high then
    let bits := bits * 64 + (b.toNat - 0x80)
    if left ≤ 1 then .char (Char.ofNat bits) else .wait (.inside (left - 1) 0x80 0xBF bits)
  else .refused

def step : State → UInt8 → Reply
  | .start, b => first b
  | .inside left low high bits, b => later left low high bits b

/-- Strict decoding from a state, the characters read so far in reverse. -/
def decodeFrom : State → List Char → Octets → Option (List Char)
  | .start, text, [] => some text.reverse
  | .inside .., _, [] => none
  | s, text, b :: bs =>
    match step s b with
    | .wait next => decodeFrom next text bs
    | .char c => decodeFrom .start (c :: text) bs
    | .refused => none

def decode? (bs : Octets) : Option String :=
  (decodeFrom .start [] bs).map String.ofList

def replacement : Char := '\uFFFD'

def lossyStep : State × List Char → UInt8 → State × List Char
  | (s, text), b =>
    match step s b with
    | .wait next => (next, text)
    | .char c => (.start, c :: text)
    | .refused =>
      match s with
      | .start => (.start, replacement :: text)
      | .inside .. =>
        match first b with
        | .wait next => (next, replacement :: text)
        | .char c => (.start, c :: replacement :: text)
        | .refused => (.start, replacement :: replacement :: text)

def lossyEnd : State → List Char
  | .start => []
  | .inside .. => [replacement]

def decodeLossy (bs : Octets) : List Char :=
  let (s, text) := bs.foldl lossyStep (.start, [])
  text.reverse ++ lossyEnd s

def encode (text : List Char) : Octets :=
  text.flatMap String.utf8EncodeChar

end Utf8

def octetsOf (s : String) : Octets :=
  Utf8.encode s.toList

end HttpRequest
