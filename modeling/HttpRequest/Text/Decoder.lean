import HttpRequest.Text.Charset

/-! # Decoding in pieces

A decoder takes bytes as they come and keeps the characters that nobody has fetched yet. A UTF-8
sequence that is cut by the end of a piece waits for the next one, and what is still unfinished at the
end becomes one replacement character.
-/
namespace HttpRequest

structure Decoder where
  charset : Charset := .utf8
  state : Utf8.State := .start
  text : List Char := []
deriving DecidableEq, Repr, Inhabited

namespace Decoder

def feed (d : Decoder) (bs : Octets) : Decoder :=
  match d.charset with
  | .latin1 => { d with text := d.text ++ Charset.latin1Chars bs }
  | .utf8 =>
    let (state, new) := bs.foldl Utf8.lossyStep (d.state, [])
    { d with state, text := d.text ++ new.reverse }

def finish (d : Decoder) : Decoder :=
  { d with state := .start, text := d.text ++ Utf8.lossyEnd d.state }

def takeText (d : Decoder) : String × Decoder :=
  (String.ofList d.text, { d with text := [] })

def dropReturn (line : List Char) : List Char :=
  (beforeLast? '\r' line).getD line

def takeLine? (d : Decoder) : Option (String × Decoder) :=
  match cutAt '\n' d.text with
  | (line, some rest) => some (String.ofList (dropReturn line), { d with text := rest })
  | (_, none) => none

end Decoder

end HttpRequest
