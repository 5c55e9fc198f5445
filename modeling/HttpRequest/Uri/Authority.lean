import HttpRequest.Number.Integer
import HttpRequest.Text.Split

/-! # Authorities

An authority is the part of a target that names the host: user information before an at sign, a host
that may be an address in brackets, and a port behind a colon. It ends at the first slash, question
mark or number sign. Percent signs and more than one colon are allowed in front of an at sign or
inside brackets only.
-/
namespace HttpRequest.Authority

def isPlain (c : Char) : Bool :=
  c.isAlphanum || "!$&'()*+,-.;=_~".toList.contains c

def isEnd (c : Char) : Bool :=
  c == '/' || c == '?' || c == '#'

structure Scan where
  colons : Nat := 0
  opened : Bool := false
  closed : Bool := false
  percent : Bool := false
  endsWithAt : Bool := false
deriving DecidableEq, Repr

def Scan.next? (s : Scan) (c : Char) : Option Scan :=
  let s := { s with endsWithAt := false }
  if c == ':' then
    if s.colons ≥ 8 then none else some { s with colons := s.colons + 1 }
  else if c == '[' then
    if s.percent || s.opened then none else some { s with opened := true }
  else if c == ']' then
    if !s.opened || s.closed then none
    else some { s with closed := true, colons := 0, percent := false }
  else if c == '@' then some { s with endsWithAt := true, colons := 0, percent := false }
  else if c == '%' then some { s with percent := true }
  else if isPlain c then some s
  else none

def Scan.complete (s : Scan) : Bool :=
  s.opened == s.closed && s.colons ≤ 1 && !s.endsWithAt && !s.percent

/-- The authority at the front of a text and the rest behind it. -/
def split? (text : List Char) : Option (List Char × List Char) :=
  let authority := text.takeWhile fun c => !isEnd c
  match authority.foldlM Scan.next? {} with
  | some s => if s.complete then some (authority, text.dropWhile fun c => !isEnd c) else none
  | none => none

def host (authority : List Char) : List Char :=
  let named := (authority.reverse.takeWhile (· != '@')).reverse
  match named with
  | '[' :: _ => named.takeWhile (· != ']') ++ [']']
  | _ => named.takeWhile (· != ':')

def port? (authority : List Char) : Option Nat :=
  if authority.contains ':' then
    Number.unsigned? 10 Number.max16 (authority.reverse.takeWhile (· != ':')).reverse
  else none

def whole? (text : List Char) : Option (List Char) :=
  match split? text with
  | some (authority, []) => if authority.isEmpty then none else some authority
  | _ => none

end HttpRequest.Authority
