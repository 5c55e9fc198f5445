import HttpRequest.Text.Extending
import HttpRequest.Text.Ignorable
import HttpRequest.Text.Unmarked

/-! # Quoted texts and described values

A quoted text stands between double quotes. Quotes and backslashes are escaped, and so are characters
that leave no mark of their own, may be left out of a drawn text, or only add to the character in front
of them. A described value is a name followed by its fields in braces.
-/
namespace HttpRequest.Quoted

/-- Whether a reader could not tell that a character is there. -/
def isHidden (c : Char) : Bool :=
  isExtending c || isIgnorable c || isUnmarked c

def escape (c : Char) : List Char :=
  match c with
  | '\x22' => ['\\', '\x22']
  | '\\' => ['\\', '\\']
  | '\x00' => ['\\', '0']
  | '\t' => ['\\', 't']
  | '\n' => ['\\', 'n']
  | '\r' => ['\\', 'r']
  | c =>
    if isHidden c then ['\\', 'u', '\x7b'] ++ Nat.toDigits 16 c.toNat ++ ['\x7d']
    else [c]

def quote (s : String) : String :=
  String.ofList ('\x22' :: (s.toList.flatMap escape ++ ['\x22']))

def optional {α : Type} (describe : α → String) : Option α → String
  | some a => "Some(" ++ describe a ++ ")"
  | none => "None"

def record (name : String) (fields : List (String × String)) : String :=
  name ++ " \x7b " ++ ", ".intercalate (fields.map fun field => field.1 ++ ": " ++ field.2) ++ " \x7d"

end HttpRequest.Quoted
