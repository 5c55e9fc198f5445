import HttpRequest.Number.Integer
import HttpRequest.Text.Split

/-! # Network endpoints

An endpoint is an address and a port. An address of the older kind is four numbers parted by points;
one of the newer kind is eight groups of hexadecimal digits parted by colons, in brackets, where one
run of zero groups may be left out. The written form leaves out the longest such run. A number behind a
percent sign says in which network an address of the newer kind is meant, and zero says none.
-/
namespace HttpRequest

inductive Address where
  | v4 (parts : List Nat)
  | v6 (groups : List Nat) (scope : Nat)
deriving DecidableEq, Repr

structure Endpoint where
  address : Address
  port : Nat
deriving DecidableEq, Repr

namespace Address

def part? (cs : List Char) : Option Nat :=
  if cs.length ≤ 3 && !(cs.length ≥ 2 && cs.head? == some '0') then
    (Number.digits? 10 cs).filter (· ≤ 255)
  else none

def v4? (cs : List Char) : Option (List Nat) :=
  match cs.splitOn '.' with
  | [a, b, c, d] => [a, b, c, d].mapM part?
  | _ => none

def group? (cs : List Char) : Option Nat :=
  if cs.length ≤ 4 then Number.digits? 16 cs else none

def plainGroups? (cs : List Char) : Option (List Nat) :=
  if cs.isEmpty then some [] else (cs.splitOn ':').mapM group?

/-- Groups parted by colons; the last one may be an address of the older kind, which stands for two. -/
def groups? (cs : List Char) : Option (List Nat) :=
  if cs.isEmpty then some []
  else
    let pieces := cs.splitOn ':'
    match v4? (pieces.getLast?.getD []) with
    | some [a, b, c, d] => (pieces.dropLast.mapM group?).map (· ++ [a * 256 + b, c * 256 + d])
    | _ => pieces.mapM group?

/-- The two sides of the first double colon. -/
def cutDouble : List Char → List Char → Option (List Char × List Char)
  | _, [] => none
  | read, ':' :: ':' :: rest => some (read.reverse, rest)
  | read, c :: rest => cutDouble (c :: read) rest

def v6? (cs : List Char) : Option (List Nat) :=
  match cutDouble [] cs with
  | none => (groups? cs).filter (·.length == 8)
  | some (front, back) =>
    match plainGroups? front, groups? back with
    | some a, some b =>
      if a.length + b.length ≤ 7 then
        some (a ++ List.replicate (8 - a.length - b.length) 0 ++ b)
      else none
    | _, _ => none

def scoped? (cs : List Char) : Option Address :=
  match cutAt '%' cs with
  | (groups, none) => (v6? groups).map (.v6 · 0)
  | (groups, some scope) => do
    let scope ← (Number.digits? 10 scope).filter (· ≤ Number.max32)
    return .v6 (← v6? groups) scope

def hex (n : Nat) : String :=
  String.ofList (Nat.toDigits 16 n)

def groupText (groups : List Nat) : String :=
  ":".intercalate (groups.map hex)

def zeros (groups : List Nat) : Nat :=
  (groups.takeWhile (· == 0)).length

/-- Where the longest run of zero groups begins and how long it is, the first of equally long ones. -/
def longestZeros : Nat → List Nat → Nat × Nat
  | _, [] => (0, 0)
  | at_, g :: rest =>
    let here := zeros (g :: rest)
    let later := longestZeros (at_ + 1) rest
    if later.2 ≤ here then (at_, here) else later

def groupsText : List Nat → String
  | [0, 0, 0, 0, 0, 0xFFFF, a, b] => s!"::ffff:{a / 256}.{a % 256}.{b / 256}.{b % 256}"
  | groups =>
    let (start, length) := longestZeros 0 groups
    if length ≤ 1 then groupText groups
    else groupText (groups.take start) ++ "::" ++ groupText (groups.drop (start + length))

def text : Address → String
  | .v4 parts => ".".intercalate (parts.map toString)
  | .v6 groups scope =>
    "[" ++ groupsText groups ++ (if scope = 0 then "" else "%" ++ toString scope) ++ "]"

end Address

namespace Endpoint

def parse? (text : String) : Option Endpoint :=
  let cs := text.toList
  let portText := (cs.reverse.takeWhile (· != ':')).reverse
  let host := cs.take (cs.length - portText.length - 1)
  match (Number.digits? 10 portText).filter (· ≤ Number.max16) with
  | none => none
  | some port =>
    match host with
    | '[' :: rest => ((beforeLast? ']' rest).bind Address.scoped?).map (⟨·, port⟩)
    | _ => (Address.v4? host).map fun parts => ⟨.v4 parts, port⟩

def text (e : Endpoint) : String :=
  e.address.text ++ ":" ++ toString e.port

end Endpoint

end HttpRequest
