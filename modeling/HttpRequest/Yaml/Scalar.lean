import HttpRequest.Yaml.Cursor
import HttpRequest.Text.Utf8

/-! # Scalars and the gaps between their words

A scalar is a text with the style in which it was written and its tag. Plain and quoted scalars may go
on over several lines: the gap between two words keeps its blanks within a line, while a gap with breaks
is folded, so that one line feed becomes a space and of several the first is dropped.
-/
namespace HttpRequest.Yaml

inductive Style where
  | plain
  | single
  | double
  | literal
  | folded
deriving DecidableEq, Repr

structure Scalar where
  style : Style
  text : List Char
  tag : Option Octets := none
deriving DecidableEq, Repr

/-- What stands between two words: blanks, or a first break and the breaks behind it. The first break is
absent if it was escaped. -/
inductive Gap where
  | blanks (read : List Char)
  | broken (first : Option Char) (more : List Char)
deriving DecidableEq, Repr

namespace Gap

def none : Gap :=
  .blanks []

def isBroken : Gap → Bool
  | .blanks _ => false
  | .broken .. => true

/-- A blank counts only as long as there is no break. -/
def addWhite (c : Char) : Gap → Gap
  | .blanks read => .blanks (read ++ [c])
  | gap => gap

/-- The first break drops the blanks in front of it. -/
def addBreak (c : Char) : Gap → Gap
  | .blanks _ => .broken (some c) []
  | .broken first more => .broken first (more ++ [c])

def fold : Gap → List Char
  | .blanks read => read
  | .broken (some '\n') [] => [' ']
  | .broken (some '\n') more => more
  | .broken first more => first.toList ++ more

def joinTo (gap : Gap) (read : List Char) : List Char :=
  gap.fold.reverse ++ read

end Gap

end HttpRequest.Yaml
