/-! # Characters of a YAML text

Which characters a text may hold, and the classes that the rules of tokens speak of. A line may end in
several ways, but a reader only tells a line feed from the two separators of Unicode.
-/
namespace HttpRequest.Yaml

/-- Characters that may stand in a text. A single one that may not makes the whole text unreadable. -/
def isPermitted (c : Char) : Bool :=
  let n := c.toNat
  n == 0x09 || n == 0x0A || n == 0x0D || (0x20 ≤ n && n ≤ 0x7E) || n == 0x85 ||
    (0xA0 ≤ n && n ≤ 0xFFFD) || 0x10000 ≤ n

def isWhite (c : Char) : Bool :=
  c == ' ' || c == '\t'

def isBreak (c : Char) : Bool :=
  c == '\n' || c == '\u2028' || c == '\u2029'

def isWord (c : Char) : Bool :=
  c.isAlphanum || c == '_' || c == '-'

def isFlowMark (c : Char) : Bool :=
  c == ',' || c == '[' || c == ']' || c == '\x7b' || c == '\x7d'

/-- Whether what stands in front of this text ends here: at a blank, a break or the end. -/
def endsWord (rest : List Char) : Bool :=
  rest.head?.all fun c => isWhite c || isBreak c

/-- A carriage return, with or without a line feed behind it, and a next-line character are line feeds. -/
def unifyBreaks : List Char → List Char
  | '\r' :: '\n' :: rest => '\n' :: unifyBreaks rest
  | c :: rest => (if c == '\r' || c == '\u0085' then '\n' else c) :: unifyBreaks rest
  | [] => []

def characters? (text : String) : Option (List Char) :=
  if text.toList.all isPermitted then some (unifyBreaks text.toList) else none

end HttpRequest.Yaml
