import HttpRequest.Yaml.Scalar

/-! # Plain scalars

A plain scalar goes on until a colon that ends a word, a comment, the mark of a document, or a line
that is not indented deeply enough; inside brackets also until a mark of collections. The blanks and
breaks behind its last word belong to no token.
-/
namespace HttpRequest.Yaml.Plain

structure Ending where
  text : List Char
  isBroken : Bool
  cursor : Cursor
deriving DecidableEq, Repr

def endsBehindGap (flow : Bool) (indent : Int) (m : Mark) (c : Char) (rest : List Char) : Bool :=
  (!flow && m.column < indent) || partsDocuments m (c :: rest) || c == '#'

def endsAt (flow : Bool) (c : Char) (rest : List Char) : Bool :=
  (c == ':' && endsWord rest) || (flow && isFlowMark c)

/-- A colon inside brackets cannot be read if it leans on a mark of collections. -/
def isStrayColon (flow : Bool) (c : Char) (rest : List Char) : Bool :=
  flow && c == ':' && rest.head?.any fun d => d == '?' || isFlowMark d

/-- Reads a plain scalar whose lines have at least `indent` columns in front of them outside of brackets;
what was read before in reverse, and the gap behind it. -/
def read (flow : Bool) (indent : Int) (text : List Char) (gap : Gap) (m : Mark) :
    List Char → Option Ending
  | [] => some ⟨text.reverse, gap.isBroken, ⟨m, []⟩⟩
  | c :: rest =>
    if isWhite c then
      if gap.isBroken && m.column < indent && c == '\t' then none
      else read flow indent text (gap.addWhite c) m.next rest
    else if isBreak c then read flow indent text (gap.addBreak c) m.newLine rest
    else if gap != .none && endsBehindGap flow indent m c rest then
      some ⟨text.reverse, gap.isBroken, ⟨m, c :: rest⟩⟩
    else if isStrayColon flow c rest then none
    else if endsAt flow c rest then some ⟨text.reverse, gap.isBroken, ⟨m, c :: rest⟩⟩
    else read flow indent (c :: gap.joinTo text) .none m.next rest

end HttpRequest.Yaml.Plain
