import HttpRequest.Number.Integer

/-! # Binary floating point numbers

A finite number is a natural number times a power of two. A decimal text is rounded to the nearest
number of a format, a tie going to the even neighbour, in exact integer arithmetic. Products and
quotients are rounded by the same rule, so no operation of the machine is needed.
-/
namespace HttpRequest.Number

/-- A binary format: bits of a significand and the least and greatest power of two of its last bit. -/
structure BinaryFormat where
  precision : Nat
  least : Int
  greatest : Int

def single : BinaryFormat := ⟨24, -149, 104⟩
def double : BinaryFormat := ⟨53, -1074, 971⟩

/-- A rounded number: a sign, and a significand times a power of two, infinity or no number. -/
inductive Binary where
  | finite (negative : Bool) (significand : Nat) (power : Int)
  | infinite (negative : Bool)
  | undefined (negative : Bool)
deriving DecidableEq, Repr

/-- The quotient rounded to the nearest integer, a tie going to the even one. -/
def roundHalfEven (numerator denominator : Nat) : Nat :=
  let q := numerator / denominator
  let r := numerator % denominator
  if 2 * r < denominator then q
  else if 2 * r = denominator then q + q % 2
  else q + 1

def scaled (n : Nat) (p : Int) : Nat × Nat :=
  match p with
  | .ofNat k => (n * Nat.pow 2 k, 1)
  | .negSucc k => (n, Nat.pow 2 (k + 1))

def BinaryFormat.round (format : BinaryFormat) (negative : Bool) (numerator denominator : Nat) :
    Binary :=
  if numerator = 0 then .finite negative 0 format.least
  else
    let guess : Int := (numerator.log2 : Int) - denominator.log2 - format.precision
    let at_ (power : Int) : Nat × Nat :=
      let (n, d) := scaled numerator (-power)
      (n, d * denominator)
    let fits := (at_ guess).1 / (at_ guess).2 < Nat.pow 2 format.precision
    let power := max (if fits then guess else guess + 1) format.least
    let significand := roundHalfEven (at_ power).1 (at_ power).2
    let (significand, power) :=
      if significand = Nat.pow 2 format.precision then
        (Nat.pow 2 (format.precision - 1), power + 1)
      else (significand, power)
    if power > format.greatest then .infinite negative else .finite negative significand power

def spanDigits (cs : List Char) : List Char × List Char :=
  (cs.takeWhile Char.isDigit, cs.dropWhile Char.isDigit)

/-- An exponent part `e12`, `E-3`: its value, if the text is one or empty. -/
def exponent? : List Char → Option Int
  | [] => some 0
  | c :: cs =>
    if c == 'e' || c == 'E' then
      match cs with
      | '-' :: rest => (digits? 10 rest).map fun n => -(n : Int)
      | '+' :: rest => (digits? 10 rest).map Int.ofNat
      | _ => (digits? 10 cs).map Int.ofNat
    else none

/-- An unsigned decimal: digits around an optional point, and an exponent part. -/
def decimal? (cs : List Char) : Option (Nat × Int) :=
  let (whole, rest) := spanDigits cs
  let (fraction, rest) := match rest with
    | '.' :: rest => spanDigits rest
    | _ => ([], rest)
  if whole.isEmpty && fraction.isEmpty then none
  else
    match digitsFrom 10 0 (whole ++ fraction), exponent? rest with
    | some n, some e => some (n, e - fraction.length)
    | _, _ => none

/-- A decimal rounded to the format; powers far outside its range need no exact arithmetic. -/
def BinaryFormat.ofDecimal (format : BinaryFormat) (negative : Bool) (n : Nat) (e : Int) : Binary :=
  let magnitude : Int := (Nat.toDigits 10 n).length + e
  if n = 0 ∨ magnitude < -400 then .finite negative 0 format.least
  else if magnitude > 400 then .infinite negative
  else match e with
    | .ofNat k => format.round negative (n * Nat.pow 10 k) 1
    | .negSucc k => format.round negative n (Nat.pow 10 (k + 1))

def BinaryFormat.read? (format : BinaryFormat) (text : List Char) : Option Binary :=
  let (negative, rest) := match text with
    | '-' :: rest => (true, rest)
    | '+' :: rest => (false, rest)
    | _ => (false, text)
  match String.ofList (rest.map Char.toLower) with
  | "inf" | "infinity" => some (.infinite negative)
  | "nan" => some (.undefined negative)
  | _ => (decimal? rest).map fun (n, e) => format.ofDecimal negative n e

def signBit (negative : Bool) : Nat :=
  if negative then 0x8000000000000000 else 0

def Binary.doubleBits : Binary → Nat
  | .undefined negative => signBit negative + 0x7FF8000000000000
  | .infinite negative => signBit negative + 0x7FF0000000000000
  | .finite negative significand power =>
    let field := if significand < Nat.pow 2 52 then significand
      else (power + 1074).toNat * Nat.pow 2 52 + significand
    signBit negative + field

end HttpRequest.Number
