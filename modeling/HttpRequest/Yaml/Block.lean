import HttpRequest.Yaml.Scalar

/-! # Block scalars

A block scalar has a header behind its mark and lines of text under it, all indented by the same number
of columns; it ends where a line is indented less. In a folded one a break between two lines that begin
with a word is a space. The header says what becomes of the breaks behind the last line.
-/
namespace HttpRequest.Yaml.Block

/-- Which of the breaks behind the last line are kept: none, the first, or all. -/
inductive Chomping where
  | strip
  | clip
  | keep
deriving DecidableEq, Repr

structure Header where
  chomping : Chomping := .clip
  /-- By how much more than what surrounds it the text is indented, if that is not to be found out. -/
  increment : Option Nat := none
deriving DecidableEq, Repr

def chomping? : Char → Option Chomping
  | '-' => some .strip
  | '+' => some .keep
  | _ => none

/-- The header without what may follow it on its line, and its length. A zero is no indentation. -/
def header? (rest : List Char) : Option (Header × Nat) :=
  let increment? (c : Char) : Option Nat := if c.isDigit then some (c.toNat - 48) else none
  match rest with
  | [] => some ({}, 0)
  | a :: behind =>
    let second := behind.head?
    match chomping? a, increment? a with
    | some chomping, _ =>
      match second.bind increment? with
      | some 0 => none
      | some n => some ({ chomping, increment := some n }, 2)
      | none => some ({ chomping }, 1)
    | none, some 0 => none
    | none, some n =>
      match second.bind chomping? with
      | some chomping => some ({ chomping, increment := some n }, 2)
      | none => some ({ increment := some n }, 1)
    | none, none => some ({}, 0)

/-- The widest margin of the empty lines in front of the text and of its first line. A tab may not stand
in it. -/
def widestMargin? (widest column : Nat) : List Char → Option Nat
  | [] => some (max widest column)
  | c :: rest =>
    if c == ' ' then widestMargin? widest (column + 1) rest
    else if c == '\t' then none
    else if isBreak c then widestMargin? (max widest column) 0 rest
    else some (max widest column)

structure Reading where
  /-- What was read before, in reverse. -/
  text : List Char := []
  lastBreak : Option Char := none
  emptyLines : List Char := []
  isInset : Bool := false
deriving DecidableEq, Repr

namespace Reading

def beginLine (folded : Bool) (c : Char) (r : Reading) : Reading :=
  let inset := isWhite c
  let joint :=
    if folded && r.lastBreak == some '\n' && !r.isInset && !inset then
      if r.emptyLines.isEmpty then [' '] else r.emptyLines
    else r.lastBreak.toList ++ r.emptyLines
  { text := c :: (joint.reverse ++ r.text), isInset := inset }

def finish (chomping : Chomping) (r : Reading) : List Char :=
  let kept := match chomping with
    | .strip => []
    | .clip => r.lastBreak.toList
    | .keep => r.lastBreak.toList ++ r.emptyLines
  r.text.reverse ++ kept

end Reading

def lines? (folded : Bool) (indent : Nat) (inLine : Bool) (r : Reading) (m : Mark) :
    List Char → Option (Reading × Cursor)
  | [] => some (r, ⟨m, []⟩)
  | c :: rest =>
    if inLine then
      if isBreak c then lines? folded indent false { r with lastBreak := some c } m.newLine rest
      else lines? folded indent true { r with text := c :: r.text } m.next rest
    else if m.column < indent && c == ' ' then lines? folded indent false r m.next rest
    else if m.column < indent && c == '\t' then none
    else if isBreak c then
      lines? folded indent false { r with emptyLines := r.emptyLines ++ [c] } m.newLine rest
    else if m.column == indent then lines? folded indent true (r.beginLine folded c) m.next rest
    else some (r, ⟨m, c :: rest⟩)

def indentation? (parent : Int) (header : Header) (rest : List Char) : Option Nat :=
  match header.increment with
  | some n => some (parent.toNat + n)
  | none => (widestMargin? 0 0 rest).map fun widest => max widest (max (parent + 1).toNat 1)

def read (folded : Bool) (parent : Int) (c : Cursor) : Option (Scalar × Cursor) := do
  let (header, length) ← header? c.rest
  let begin ← (c.skip length).endLine?
  let indent ← indentation? parent header begin.rest
  let (r, next) ← lines? folded indent false {} begin.mark begin.rest
  return (⟨if folded then .folded else .literal, r.finish header.chomping, none⟩, next)

end HttpRequest.Yaml.Block
