import HttpRequest.Yaml.Token
import HttpRequest.Yaml.Quoted
import HttpRequest.Yaml.Plain
import HttpRequest.Yaml.Block

/-! # The layout of a YAML text

The tokens of a text, read from left to right. Outside of brackets a collection begins at a token that is
indented more than what surrounds it and ends in front of one that is indented less. Whether a token is a
key is seen only at the colon behind it, so a place where a key may have begun stays a candidate for the
rest of its line, and the tokens of a key are put in there afterwards.
-/
namespace HttpRequest.Yaml

/-- A place where a key may have begun. -/
structure Candidate where
  number : Nat
  mark : Mark
  isRequired : Bool
deriving DecidableEq, Repr

/-- What is known in front of a place of a text. -/
structure Layout where
  cursor : Cursor
  tokens : Array Token := #[]
  /-- The column of the innermost collection outside of brackets. -/
  indent : Int := -1
  outerIndents : List Int := []
  /-- The candidate within the innermost brackets. -/
  candidate : Option Candidate := none
  outerCandidates : List (Option Candidate) := []
  allowsKey : Bool := true
deriving DecidableEq, Repr

namespace Layout

def isFlow (l : Layout) : Bool :=
  !l.outerCandidates.isEmpty

def column (l : Layout) : Nat :=
  l.cursor.mark.column

def push (l : Layout) (t : Token) : Layout :=
  { l with tokens := l.tokens.push t }

def insert (l : Layout) (number : Nat) (t : Token) : Layout :=
  { l with tokens := l.tokens.insertIdxIfInBounds number t }

def take (l : Layout) (n : Nat) (t : Token) : Layout :=
  { l.push t with cursor := l.cursor.skip n }

def unrollFrom (column : Int) (l : Layout) : List Int → Layout
  | outer :: rest =>
    if l.indent ≤ column then l
    else unrollFrom column { l.push .blockEnd with indent := outer, outerIndents := rest } rest
  | [] => l

def unroll (l : Layout) (column : Int) : Layout :=
  if l.isFlow then l else unrollFrom column l l.outerIndents

/-- Begins a collection outside of brackets behind the first `number` tokens, if it is indented more than
what surrounds it. -/
def roll (l : Layout) (column number : Nat) (start : Token) : Layout :=
  if l.isFlow || (column : Int) ≤ l.indent then l
  else
    { l.insert number start with
      indent := column
      outerIndents := l.indent :: l.outerIndents }

/-- Gives up the candidate; a place where only a key may stand cannot be given up. -/
def dropCandidate (l : Layout) : Option Layout :=
  if l.candidate.any (·.isRequired) then none else some { l with candidate := none }

def saveCandidate (l : Layout) : Option Layout :=
  if l.allowsKey then do
    let l ← l.dropCandidate
    let isRequired := !l.isFlow && l.indent == l.column
    return { l with candidate := some ⟨l.tokens.size, l.cursor.mark, isRequired⟩ }
  else some l

/-- A candidate as it is at a later mark: it stands for one line and 1024 characters. -/
def candidateAt (m : Mark) : Option Candidate → Option (Option Candidate)
  | none => some none
  | some c =>
    if c.mark.line < m.line || c.mark.index + 1024 < m.index then
      if c.isRequired then none else some none
    else some (some c)

def refresh (l : Layout) : Option Layout := do
  let candidate ← candidateAt l.cursor.mark l.candidate
  let outerCandidates ← l.outerCandidates.mapM (candidateAt l.cursor.mark)
  return { l with candidate, outerCandidates }

/-- Skips blanks, breaks and comments in front of the next token. A byte order mark may begin a line.
Where a key may begin outside of brackets, tabs may not stand in front of it; a break is followed by such
a place. -/
def skipFrom (l : Layout) (inComment : Bool) (m : Mark) : List Char → Layout
  | [] => { l with cursor := ⟨m, []⟩ }
  | c :: rest =>
    if isBreak c then skipFrom { l with allowsKey := l.allowsKey || !l.isFlow } false m.newLine rest
    else if inComment || c == '#' then skipFrom l true m.next rest
    else if c == ' ' || (m.column == 0 && c == '\ufeff') then skipFrom l false m.next rest
    else if c == '\t' && (l.isFlow || !l.allowsKey) then skipFrom l false m.next rest
    else { l with cursor := ⟨m, c :: rest⟩ }

def endCollections (l : Layout) : Option Layout := do
  let l ← (l.unroll (-1)).dropCandidate
  return { l with allowsKey := false }

/-- Whether a key may begin here, or brackets make that unimportant. -/
def allowsStart (l : Layout) : Bool :=
  l.isFlow || l.allowsKey

def openFlow (l : Layout) (start : Token) : Option Layout := do
  let l ← l.saveCandidate
  return { l.take 1 start with
    candidate := none
    outerCandidates := l.candidate :: l.outerCandidates
    allowsKey := true }

def closeFlow (l : Layout) (stop : Token) : Option Layout := do
  let l ← l.dropCandidate
  return { l.take 1 stop with
    candidate := l.outerCandidates.head?.join
    outerCandidates := l.outerCandidates.tail
    allowsKey := false }

def comma (l : Layout) : Option Layout := do
  let l ← l.dropCandidate
  return { l.take 1 .comma with allowsKey := true }

def item (l : Layout) : Option Layout := do
  if !l.allowsStart then failure
  let l ← (l.roll l.column l.tokens.size .blockSequence).dropCandidate
  return { l.take 1 .item with allowsKey := true }

def key (l : Layout) : Option Layout := do
  if !l.allowsStart then failure
  let l ← (l.roll l.column l.tokens.size .blockMapping).dropCandidate
  return { l.take 1 .key with allowsKey := !l.isFlow }

def value (l : Layout) : Option Layout :=
  match l.candidate with
  | some c =>
    let l := (l.insert c.number .key).roll c.mark.column c.number .blockMapping
    some { l.take 1 .value with candidate := none, allowsKey := false }
  | none =>
    if !l.allowsStart then none
    else
      let l := l.roll l.column l.tokens.size .blockMapping
      some { l.take 1 .value with allowsKey := !l.isFlow }

def word (l : Layout) (read : Option (Token × Cursor)) : Option Layout := do
  let l ← l.saveCandidate
  let (token, cursor) ← read
  return { l.push token with cursor, allowsKey := false }

def name (l : Layout) (token : List Char → Token) : Option Layout :=
  l.word ((anchorName? (l.cursor.skip 1)).map fun (name, c) => (token name, c))

def tag (l : Layout) : Option Layout :=
  l.word do
    let (name, c) ← TagName.read? l.cursor
    if endsWord c.rest || (l.isFlow && c.rest.head? == some ',') then some (.tag name, c) else none

def quoted (l : Layout) (style : Style)
    (read : List Char → Gap → Mark → List Char → Option (List Char × Cursor)) : Option Layout :=
  l.word do
    let (text, c) ← read [] .none l.cursor.mark.next (l.cursor.rest.drop 1)
    return (.scalar ⟨style, text, none⟩, c)

def plain (l : Layout) : Option Layout := do
  let l ← l.saveCandidate
  let ending ← Plain.read l.isFlow (l.indent + 1) [] .none l.cursor.mark l.cursor.rest
  return { l.push (.scalar ⟨.plain, ending.text, none⟩) with
    cursor := ending.cursor
    allowsKey := ending.isBroken }

def block (l : Layout) (folded : Bool) : Option Layout := do
  let l ← l.dropCandidate
  let (scalar, cursor) ← Block.read folded l.indent (l.cursor.skip 1)
  return { l.push (.scalar scalar) with cursor, allowsKey := true }

def directive (l : Layout) : Option Layout := do
  let l ← l.endCollections
  let (token, cursor) ← Token.directive? (l.cursor.skip 1)
  return { l.push token with cursor }

def marker (l : Layout) (t : Token) : Option Layout := do
  let l ← l.endCollections
  return l.take 3 t

def isIndicator (c : Char) : Bool :=
  isWhite c || isFlowMark c || "#&*!|>\x27\x22%@\x60".toList.contains c

def token (l : Layout) (c : Char) (rest : List Char) : Option Layout :=
  let ends := endsWord rest
  if l.column == 0 && c == '%' then l.directive
  else if partsDocuments l.cursor.mark l.cursor.rest then
    l.marker (if c == '-' then .documentStart else .documentEnd)
  else
    match c with
    | '[' => l.openFlow .flowSequence
    | '{' => l.openFlow .flowMapping
    | ']' => l.closeFlow .flowSequenceEnd
    | '}' => l.closeFlow .flowMappingEnd
    | ',' => l.comma
    | '*' => l.name .alias
    | '&' => l.name .anchor
    | '!' => l.tag
    | '\x27' => l.quoted .single Quoted.single
    | '\x22' => l.quoted .double Quoted.double
    | '-' => if ends then l.item else l.plain
    | '?' => if l.isFlow || ends then l.key else l.plain
    | ':' => if l.isFlow || ends then l.value else l.plain
    | '|' => if l.isFlow then none else l.block false
    | '>' => if l.isFlow then none else l.block true
    | c => if isIndicator c then none else l.plain

/-- All tokens; the first argument bounds their number. -/
def tokensFrom : Nat → Layout → Option (Array Token)
  | 0, _ => none
  | n + 1, l => do
    let l ← (skipFrom l false l.cursor.mark l.cursor.rest).refresh
    match l.cursor.rest with
    | [] =>
      let l ← (l.unroll (-1)).dropCandidate
      return l.tokens
    | c :: rest =>
      let l ← (l.unroll l.column).token c rest
      tokensFrom n l

end Layout

def Token.ofText? (text : String) : Option (List Token) := do
  let chars ← characters? text
  let tokens ← Layout.tokensFrom (chars.length + 1) { cursor := { rest := chars } }
  return tokens.toList

end HttpRequest.Yaml
