import HttpRequest.Yaml.Scalar
import HttpRequest.Number.Integer

/-! # Quoted scalars

Between single quotes a doubled quote stands for itself and nothing else is special. Between double
quotes a backslash begins an escape, and one in front of a break joins the lines without a space. The
readers start behind the opening quote and give the text with the cursor behind the closing one. A text
without a closing quote cannot be read, nor one in which a document ends.
-/
namespace HttpRequest.Yaml.Quoted

def single (read : List Char) (gap : Gap) (m : Mark) : List Char → Option (List Char × Cursor)
  | [] => none
  | '\x27' :: '\x27' :: rest => single ('\x27' :: gap.joinTo read) .none (m.advance 2) rest
  | '\x27' :: rest => some ((gap.joinTo read).reverse, ⟨m.next, rest⟩)
  | c :: rest =>
    if isWhite c then single read (gap.addWhite c) m.next rest
    else if isBreak c then single read (gap.addBreak c) m.newLine rest
    else if partsDocuments m (c :: rest) then none
    else single (c :: gap.joinTo read) .none m.next rest

def escaped? : Char → Option Char
  | '0' => some '\x00'
  | 'a' => some '\x07'
  | 'b' => some '\x08'
  | 't' | '\t' => some '\t'
  | 'n' => some '\n'
  | 'v' => some '\x0b'
  | 'f' => some '\x0c'
  | 'r' => some '\r'
  | 'e' => some '\x1b'
  | ' ' => some ' '
  | '\x22' => some '\x22'
  | '/' => some '/'
  | '\\' => some '\\'
  | 'N' => some '\u0085'
  | '_' => some '\u00a0'
  | 'L' => some '\u2028'
  | 'P' => some '\u2029'
  | _ => none

/-- The character with these hexadecimal digits, unless they are beyond the last one or those of half a
pair of surrogates. -/
def codePoint? (digits : List Char) : Option Char :=
  (Number.digits? 16 digits).bind fun n => if h : n.isValidChar then some (Char.ofNatAux n h) else none

def double (read : List Char) (gap : Gap) (m : Mark) : List Char → Option (List Char × Cursor)
  | [] => none
  | '\x22' :: rest => some ((gap.joinTo read).reverse, ⟨m.next, rest⟩)
  | '\\' :: 'x' :: a :: b :: rest =>
    match codePoint? [a, b] with
    | some d => double (d :: gap.joinTo read) .none (m.advance 4) rest
    | none => none
  | '\\' :: 'u' :: a :: b :: c :: d :: rest =>
    match codePoint? [a, b, c, d] with
    | some e => double (e :: gap.joinTo read) .none (m.advance 6) rest
    | none => none
  | '\\' :: 'U' :: a :: b :: c :: d :: e :: f :: g :: h :: rest =>
    match codePoint? [a, b, c, d, e, f, g, h] with
    | some i => double (i :: gap.joinTo read) .none (m.advance 10) rest
    | none => none
  | '\\' :: c :: rest =>
    if isBreak c then double (gap.joinTo read) (.broken none []) m.next.newLine rest
    else
      match escaped? c with
      | some d => double (d :: gap.joinTo read) .none (m.advance 2) rest
      | none => none
  | c :: rest =>
    if isWhite c then double read (gap.addWhite c) m.next rest
    else if isBreak c then double read (gap.addBreak c) m.newLine rest
    else if partsDocuments m (c :: rest) then none
    else double (c :: gap.joinTo read) .none m.next rest

end HttpRequest.Yaml.Quoted
