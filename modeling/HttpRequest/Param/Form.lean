import HttpRequest.Param.Table
import HttpRequest.Text.Charset
import HttpRequest.Text.Escape

/-! # Form-encoded pairs

A query or a form body is a list of pairs parted by ampersands. In a name or value a plus sign stands
for a space and an escape for a byte, and the bytes must be text in the chosen encoding. A segment
without a name is skipped, and a name without an equals sign has the empty value. Nothing malformed is
let through: the first fault ends the decoding.
-/
namespace HttpRequest.Form

def component (charset : Charset) (raw : Octets) : Except Failure String :=
  if Escape.wellFormed raw then
    match charset.decode? (Escape.undo (Escape.plusToSpace raw)) with
    | some text => .ok text
    | none => .error (.badRequest ("Not valid " ++ charset.name))
  else .error (.badRequest "Bad escape sequence")

/-- A segment with a name, cut at its first equals sign; the missing value is empty. -/
def rawPair? (segment : Octets) : Option (Octets × Octets) :=
  let (name, value) := cutAt 0x3D segment
  if name.isEmpty then none else some (name, value.getD [])

def rawPairs (input : Octets) : List (Octets × Octets) :=
  (input.splitOn 0x26).filterMap rawPair?

def pair (charset : Charset) (raw : Octets × Octets) : Except Failure (String × String) :=
  match component charset raw.1 with
  | .error f => .error f
  | .ok name =>
    match component charset raw.2 with
    | .error f => .error f
    | .ok value => .ok (name, value)

def tooManyKeys (limit : Nat) : Failure :=
  .badRequest s!"Too many form keys > {limit}"

def within (limit : Option Nat) (t : ParamTable) : Except Failure Unit :=
  match limit with
  | some limit => if limit < t.size then .error (tooManyKeys limit) else .ok ()
  | none => .ok ()

/-- Adds the pairs one by one. On a fault the pairs added before it stay in the table. -/
def addPairs (charset : Charset) (limit : Option Nat) :
    ParamTable → List (Octets × Octets) → Except Failure Unit × ParamTable
  | t, [] => (.ok (), t)
  | t, raw :: rest =>
    match pair charset raw with
    | .error f => (.error f, t)
    | .ok (name, value) =>
      let t := t.add name value
      match within limit t with
      | .error f => (.error f, t)
      | .ok _ => addPairs charset limit t rest

def decodeInto (t : ParamTable) (input : Octets) (charset : Charset) (limit : Option Nat) :
    Except Failure Unit × ParamTable :=
  addPairs charset limit t (rawPairs input)

def decode (input : Octets) (charset : Charset) (limit : Option Nat) : Except Failure ParamTable :=
  match decodeInto ∅ input charset limit with
  | (.ok _, t) => .ok t
  | (.error f, _) => .error f

def decodeQuery (query : String) (charset : Charset) : Except Failure ParamTable :=
  decode (octetsOf query) charset none

def decodeBody (body : Octets) (charset : Charset) (maxKeys : Nat) : Except Failure ParamTable :=
  decode body charset (some maxKeys)

end HttpRequest.Form
