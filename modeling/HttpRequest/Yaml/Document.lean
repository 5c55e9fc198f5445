import HttpRequest.Yaml.Node
import HttpRequest.Yaml.Layout

/-! # YAML documents

The node that a text describes, built from its tokens. A text holds at most one document: directives and
a mark may stand in front of it and marks of its end behind it. A value that is left out is an empty
plain scalar. An alias means an anchor of the same name in front of it.
-/
namespace HttpRequest.Yaml.Document

structure Reading where
  tokens : List Token
  anchors : List (List Char × Nat) := []
  handles : List (List Char × Octets) := []

abbrev Reader := StateT Reading Option

def next : Reader (Option Token) :=
  return (← get).tokens.head?

def advance : Reader Unit :=
  modify fun r => { r with tokens := r.tokens.tail }

def isNextIn (tokens : List Token) : Reader Bool :=
  return (← next).any tokens.contains

def accept (t : Token) : Reader Bool := do
  if (← next) == some t then
    advance
    return true
  else return false

structure Properties where
  anchor : Option Nat := none
  tag : Option Octets := none

/-- Numbers an anchor by how many names were known before. Numbers may meet when a name is used again. -/
def nameAnchor (name : List Char) : Reader Nat := do
  let r ← get
  let number := r.anchors.length
  set { r with anchors := (name, number) :: r.anchors.filter (·.1 != name) }
  return number

def anchor? : Reader (Option Nat) := do
  match ← next with
  | some (.anchor name) =>
    advance
    return some (← nameAnchor name)
  | _ => return none

def tag? : Reader (Option Octets) := do
  match ← next with
  | some (.tag name) =>
    advance
    return some (← name.resolve? (← get).handles)
  | _ => return none

def properties : Reader Properties := do
  match ← anchor? with
  | some anchor => return { anchor, tag := ← tag? }
  | none =>
    let tag ← tag?
    return { anchor := ← anchor?, tag }

/-- Reads a node unless one of these tokens shows that it is left out. -/
def unlessNext (stops : List Token) (node : Reader Node) : Reader Node := do
  if ← isNextIn stops then return .empty else node

def bare (p : Properties) : Reader Node :=
  if p.anchor.isSome || p.tag.isSome then return .scalar p.anchor ⟨.plain, [], p.tag⟩ else failure

mutual

/-- Reads a node; the first argument bounds the depth and the number of parts. Collections that are
shown by their indentation alone may not stand in brackets. As the value of a key a sequence may be
indented no more than the key. -/
def node : (fuel : Nat) → (inBlock isValue : Bool) → Reader Node
  | 0, _, _ => failure
  | n + 1, inBlock, isValue => do
    if let some (.alias name) ← next then
      advance
      return .alias (← (← get).anchors.lookup name)
    let p ← properties
    match ← next with
    | some (.scalar s) =>
      advance
      return .scalar p.anchor { s with tag := p.tag }
    | some .flowSequence =>
      advance
      return .sequence p.anchor (← flowItems n true)
    | some .flowMapping =>
      advance
      return .mapping p.anchor (← flowFields n true)
    | some .item => if isValue then return .sequence p.anchor (← looseItems n) else bare p
    | some .blockSequence =>
      if inBlock then
        advance
        return .sequence p.anchor (← blockItems n)
      else bare p
    | some .blockMapping =>
      if inBlock then
        advance
        return .mapping p.anchor (← blockFields n)
      else bare p
    | _ => bare p

def blockItems : (fuel : Nat) → Reader (List Node)
  | 0 => failure
  | n + 1 => do
    if ← accept .blockEnd then return []
    if !(← accept .item) then failure
    let first ← unlessNext [.item, .blockEnd] (node n true false)
    return first :: (← blockItems n)

/-- The items of a sequence that ends with the value it is. -/
def looseItems : (fuel : Nat) → Reader (List Node)
  | 0 => failure
  | n + 1 => do
    if ← accept .item then
      let first ← unlessNext [.item, .key, .value, .blockEnd] (node n true false)
      return first :: (← looseItems n)
    else return []

def blockFields : (fuel : Nat) → Reader (List (Node × Node))
  | 0 => failure
  | n + 1 => do
    let stops : List Token := [.key, .value, .blockEnd]
    if ← accept .blockEnd then return []
    if !(← accept .key) then failure
    let key ← unlessNext stops (node n true true)
    let value ← if ← accept .value then unlessNext stops (node n true true) else pure .empty
    return (key, value) :: (← blockFields n)

/-- The items between brackets; all but the first are behind a comma. An item with a key is a mapping of
its own. -/
def flowItems : (fuel : Nat) → (isFirst : Bool) → Reader (List Node)
  | 0, _ => failure
  | n + 1, isFirst => do
    if ← accept .flowSequenceEnd then return []
    if !isFirst then
      if !(← accept .comma) then failure
    if ← accept .key then
      let field ← pair n
      return .mapping none [field] :: (← flowItems n false)
    else if ← accept .flowSequenceEnd then return []
    else
      let first ← node n false false
      return first :: (← flowItems n false)

/-- The key and the value of an item. Where the key is left out, so is the token behind it. -/
def pair : (fuel : Nat) → Reader (Node × Node)
  | 0 => failure
  | n + 1 => do
    let key ←
      if ← isNextIn [.value, .comma, .flowSequenceEnd] then
        advance
        pure .empty
      else node n false false
    let value ←
      if ← accept .value then unlessNext [.comma, .flowSequenceEnd] (node n false false)
      else pure .empty
    return (key, value)

def flowFields : (fuel : Nat) → (isFirst : Bool) → Reader (List (Node × Node))
  | 0, _ => failure
  | n + 1, isFirst => do
    let stops : List Token := [.comma, .flowMappingEnd]
    if ← accept .flowMappingEnd then return []
    if !isFirst then
      if !(← accept .comma) then failure
    if ← accept .key then
      let key ← unlessNext (.value :: stops) (node n false false)
      let value ← if ← accept .value then unlessNext stops (node n false false) else pure .empty
      return (key, value) :: (← flowFields n false)
    else if ← accept .flowMappingEnd then return []
    else
      let key ← node n false false
      return (key, .empty) :: (← flowFields n false)

end

/-- Reads the directives in front of a document. There may be one version, 1.1 or 1.2, and each handle may
be made known once. -/
def directives (hasVersion : Bool) : List Token → Reader Unit
  | .version major minor :: rest =>
    if hasVersion || major != 1 || (minor != 1 && minor != 2) then failure
    else do
      advance
      directives true rest
  | .knownHandle handle stem :: rest => do
    let r ← get
    if (r.handles.lookup handle).isSome then failure
    set { r with handles := (handle, stem) :: r.handles }
    advance
    directives hasVersion rest
  | _ => modify fun r => { r with handles := r.handles ++ TagName.knownHandles }

def isBare : Reader Bool := do
  match ← next with
  | some t => return t.isDirective || t == .documentStart || t == .documentEnd
  | none => return true

def document : Reader (Option Node) := do
  let tokens := (← get).tokens
  let fuel := 2 * tokens.length + 2
  match tokens with
  | [] => return none
  | first :: _ =>
    directives false tokens
    let root ←
      if first.isDirective || first == .documentStart then
        if !(← accept .documentStart) then failure
        if ← isBare then pure .empty else node fuel true false
      else node fuel true false
    if (← get).tokens.all (· == .documentEnd) then return some root else failure

def read? (text : String) : Option (Option Node) := do
  let tokens ← Token.ofText? text
  (·.1) <$> document { tokens }

end HttpRequest.Yaml.Document
