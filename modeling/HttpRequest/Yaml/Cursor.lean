import HttpRequest.Yaml.Character

/-! # Places in a YAML text

A mark counts the characters in front of a place, the lines above it and the columns to its left. A
cursor is a mark together with the text behind it. Three hyphens or three dots alone at the beginning of
a line part documents, whatever surrounds them.
-/
namespace HttpRequest.Yaml

structure Mark where
  index : Nat := 0
  line : Nat := 0
  column : Nat := 0
deriving DecidableEq, Repr

namespace Mark

def advance (m : Mark) (n : Nat) : Mark :=
  { m with index := m.index + n, column := m.column + n }

def next (m : Mark) : Mark :=
  m.advance 1

def newLine (m : Mark) : Mark :=
  ⟨m.index + 1, m.line + 1, 0⟩

end Mark

structure Cursor where
  mark : Mark := {}
  rest : List Char
deriving DecidableEq, Repr

namespace Cursor

def skip (c : Cursor) (n : Nat) : Cursor :=
  ⟨c.mark.advance n, c.rest.drop n⟩

def run (c : Cursor) (p : Char → Bool) : List Char :=
  c.rest.takeWhile p

def skipWhile (c : Cursor) (p : Char → Bool) : Cursor :=
  c.skip (c.run p).length

def skipBreak (c : Cursor) : Cursor :=
  match c.rest with
  | b :: rest => if isBreak b then ⟨c.mark.newLine, rest⟩ else c
  | [] => c

def skipComment (c : Cursor) : Cursor :=
  if c.rest.head? == some '#' then c.skipWhile (!isBreak ·) else c

/-- The beginning of the next line, if nothing but blanks and a comment is in front of it. -/
def endLine? (c : Cursor) : Option Cursor :=
  let c := (c.skipWhile isWhite).skipComment
  if c.rest.head?.all isBreak then some c.skipBreak else none

end Cursor

/-- Whether a text begins with this mark three times and nothing to the right of it. -/
def beginsWithTriple (mark : Char) : List Char → Bool
  | a :: b :: c :: rest => a == mark && b == mark && c == mark && endsWord rest
  | _ => false

def partsDocuments (m : Mark) (rest : List Char) : Bool :=
  m.column == 0 && (beginsWithTriple '-' rest || beginsWithTriple '.' rest)

end HttpRequest.Yaml
