import HttpRequest.Header.Fields

/-! # Cookies

A cookie line is a list of pairs `name=value` parted by semicolons. Blanks around names and values do
not count, one pair of double quotes around a value is removed, and pairs without a name or with a
name that begins with a dollar sign are left out.
-/
namespace HttpRequest

structure Cookie where
  name : String
  value : String
deriving DecidableEq, Repr

namespace Cookie

def unquote (value : List Char) : List Char :=
  match value with
  | '\x22' :: rest => (beforeLast? '\x22' rest).getD value
  | _ => value

def ofSegment? (segment : List Char) : Option Cookie :=
  let (name, value) := cutAt '=' (trim segment)
  let name := trim name
  if name.isEmpty || name.head? == some '$' then none
  else some ⟨String.ofList name, String.ofList (unquote (trim (value.getD [])))⟩

def ofLine (line : String) : List Cookie :=
  (line.toList.splitOn ';').filterMap ofSegment?

def ofHeaders (h : Headers) : List Cookie :=
  (h.texts "cookie").flatMap ofLine

end Cookie

end HttpRequest
