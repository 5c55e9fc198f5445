/-! # Reading integers

An integer is one or more decimal digits after an optional sign. A value beyond the given limit is
refused, and nothing else than ASCII digits counts as a digit.
-/
namespace HttpRequest.Number

def digit? (base : Nat) (c : Char) : Option Nat :=
  let value :=
    if '0' ≤ c ∧ c ≤ '9' then c.toNat - 48
    else if 'a' ≤ c ∧ c ≤ 'f' then c.toNat - 87
    else if 'A' ≤ c ∧ c ≤ 'F' then c.toNat - 55
    else 16
  if value < base then some value else none

def digitsFrom (base : Nat) : Nat → List Char → Option Nat
  | value, [] => some value
  | value, c :: cs =>
    match digit? base c with
    | some d => digitsFrom base (value * base + d) cs
    | none => none

def digits? (base : Nat) (cs : List Char) : Option Nat :=
  if cs.isEmpty then none else digitsFrom base 0 cs

def unsigned? (base limit : Nat) (cs : List Char) : Option Nat :=
  let read := match cs with
    | '+' :: rest => digits? base rest
    | _ => digits? base cs
  read.filter (· ≤ limit)

def signed64? (cs : List Char) : Option Int :=
  match cs with
  | '-' :: rest => ((digits? 10 rest).filter (· ≤ 0x8000000000000000)).map fun n => -(n : Int)
  | _ => (unsigned? 10 0x7FFFFFFFFFFFFFFF cs).map Int.ofNat

def max16 : Nat := 0xFFFF
def max32 : Nat := 0xFFFFFFFF
def max64 : Nat := 0xFFFFFFFFFFFFFFFF

end HttpRequest.Number
