import HttpRequest.Number.Integer
import HttpRequest.Text.Split

/-! # Settings

Limits on form bodies, the time limit of blocking reads, the methods whose forms are decoded, and the
encoding of readers when the request names none. The environment overrides what was set before; a
number that cannot be read is ignored.
-/
namespace HttpRequest

structure Settings where
  /-- The largest form body in bytes. -/
  maxFormSize : Nat := 200000
  maxFormKeys : Nat := 1000
  /-- How long a blocking read waits, in milliseconds. -/
  readTimeout : Nat := 30000
  formMethods : List String := ["POST", "PUT"]
  /-- The encoding of a reader when the request names none. -/
  readerCharset : String := "ISO-8859-1"
deriving DecidableEq, Repr, Inhabited

abbrev Variables := List (String × String)

namespace Settings

def isFormMethod (s : Settings) (method : String) : Bool :=
  s.formMethods.any (sameIgnoringCase · method)

def number? (text : String) : Option Nat :=
  match trim text.toList with
  | '0' :: 'x' :: digits | '0' :: 'X' :: digits => Number.unsigned? 16 Number.max64 digits
  | digits => Number.unsigned? 10 Number.max64 digits

/-- The methods of a list parted by commas, in upper case. -/
def methodList (text : String) : List String :=
  ((text.toList.splitOn ',').map fun m => upperAscii (String.ofList (trim m))).filter (· ≠ "")

def override (s : Settings) (vars : Variables) : Settings :=
  let number (name : String) (previous : Nat) : Nat :=
    ((vars.lookup name).bind number?).getD previous
  let methods := ((vars.lookup "REQSCOPE_FORM_ENCODED_METHODS").map methodList).getD []
  let charset := ((vars.lookup "REQSCOPE_DEFAULT_READER_CHARSET").map trimText).getD ""
  { maxFormSize := number "REQSCOPE_MAX_FORM_CONTENT_SIZE" s.maxFormSize
    maxFormKeys := number "REQSCOPE_MAX_FORM_KEYS" s.maxFormKeys
    readTimeout := number "REQSCOPE_BLOCKING_READ_TIMEOUT_MS" s.readTimeout
    formMethods := if methods.isEmpty then s.formMethods else methods
    readerCharset := if charset.isEmpty then s.readerCharset else charset }

def ofVariables (vars : Variables) : Settings :=
  override {} vars

end Settings

end HttpRequest
