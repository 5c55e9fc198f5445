import HttpRequest.Settings
import HttpRequest.Yaml.Document

/-! # Settings from documents

A YAML document sets the fields that it names and leaves the others at their defaults. Keys that are not
known are skipped. A known key that occurs twice, or whose value has the wrong type, makes the whole
document unusable. Variables override what a file says.
-/
namespace HttpRequest.Settings

inductive Fault where
  | unparseable
  | unreadable (path : String)
deriving DecidableEq, Repr

def Fault.message : Fault → String
  | .unparseable => "Failed to parse runtime config YAML"
  | .unreadable path => "Failed to read runtime config " ++ path

/-- Whether a text has the digits of a number but may not be read as one, as it begins with a zero. -/
def hasLeadingZero (digits : List Char) : Bool :=
  match digits with
  | '0' :: c :: cs => (c :: cs).all Char.isDigit
  | _ => false

/-- A number of 64 bits, decimal or behind `0x`, `0o` or `0b`, with an optional plus sign. -/
def integer? (text : List Char) : Option Nat :=
  let digits := match text with
    | '+' :: rest => rest
    | _ => text
  let limited (n : Option Nat) := n.filter (· ≤ Number.max64)
  match digits with
  | '0' :: 'x' :: rest => limited (Number.digits? 16 rest)
  | '0' :: 'o' :: rest => limited (Number.digits? 8 rest)
  | '0' :: 'b' :: rest => limited (Number.digits? 2 rest)
  | _ => if hasLeadingZero digits then none else limited (Number.digits? 10 digits)

/-- Whether a scalar may be a number: it is plain, or literal with the tag of integers. -/
def mayBeNumber (s : Yaml.Scalar) : Bool :=
  s.style == .plain || (s.style == .literal && s.tag == some Yaml.TagName.integer)

def isEmptyPlain (s : Yaml.Scalar) : Bool :=
  s.style == .plain && s.text.isEmpty

section Node

variable (root : Yaml.Node)

def text? (node : Yaml.Node) : Option String :=
  match root.resolve? node with
  | some (.scalar _ s) => some (String.ofList s.text)
  | _ => none

def count? (node : Yaml.Node) : Option Nat :=
  match root.resolve? node with
  | some (.scalar _ s) => if mayBeNumber s then integer? s.text else none
  | _ => none

/-- The texts of a sequence. A value that is left out is an empty sequence. -/
def texts? (node : Yaml.Node) : Option (List String) :=
  match root.resolve? node with
  | some (.sequence _ items) => items.mapM (text? root)
  | some (.scalar _ s) => if isEmptyPlain s then some [] else none
  | _ => none

end Node

def occurrences (key : String) (fields : List (String × Yaml.Node)) : List Yaml.Node :=
  (fields.filter fun field => field.1 == key).map (·.2)

/-- The value of a field: the default if its key is missing, nothing usable if it occurs twice or
has the wrong type. -/
def field? {α : Type} (fields : List (String × Yaml.Node)) (key : String)
    (read : Yaml.Node → Option α) (default : α) : Option α :=
  match occurrences key fields with
  | [] => some default
  | [node] => read node
  | _ => none

def ofFields? (root : Yaml.Node) (fields : List (String × Yaml.Node)) : Option Settings := do
  let base : Settings := {}
  let maxFormSize ← field? fields "max_form_content_size" (count? root) base.maxFormSize
  let maxFormKeys ← field? fields "max_form_keys" (count? root) base.maxFormKeys
  let readTimeout ← field? fields "blocking_read_timeout_ms" (count? root) base.readTimeout
  let formMethods ← field? fields "form_encoded_methods" (texts? root) base.formMethods
  let readerCharset ← field? fields "default_reader_charset" (text? root) base.readerCharset
  return { maxFormSize, maxFormKeys, readTimeout, formMethods, readerCharset }

/-- The settings of a document, whose keys have to be texts. A document that is left out sets nothing. -/
def ofNode? : Option Yaml.Node → Option Settings
  | none => some {}
  | some (.scalar _ s) => if isEmptyPlain s then some {} else none
  | some (.mapping anchor fields) => do
    let root : Yaml.Node := .mapping anchor fields
    let named ← fields.mapM fun (key, value) => (text? root key).map (·, value)
    ofFields? root named
  | _ => none

def ofDocument (text : String) : Except Fault Settings :=
  match (Yaml.Document.read? text).bind ofNode? with
  | some s => .ok s
  | none => .error .unparseable

def ofFile (path : String) (content : Option String) (vars : Variables) : Except Fault Settings :=
  match content with
  | none => .error (.unreadable path)
  | some text => (ofDocument text).map (override · vars)

end HttpRequest.Settings
