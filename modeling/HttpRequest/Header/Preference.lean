import HttpRequest.Header.Fields
import HttpRequest.Number.Binary

/-! # Weighted preferences

A preference line is a list of items parted by commas; an item is a value and parameters parted by
semicolons, where `q` gives a weight between zero and one. Weights are kept in thousandths. Items
without weight are dropped, and the others are sorted by falling weight, equal weights in the order
sent.
-/
namespace HttpRequest.Preference

/-- A number of the single format times a thousand, rounded in that format and then to the nearest
integer, a half going up. -/
def thousandths (significand : Nat) (power : Int) : Nat :=
  let (n, d) := Number.scaled (significand * 1000) power
  match Number.single.round false n d with
  | .finite _ s p =>
    let (n, d) := Number.scaled s p
    (2 * n + d) / (2 * d)
  | _ => 0

/-- The weight in thousandths; zero when the text is no number from zero to one. -/
def weight (q : List Char) : Nat :=
  match Number.single.read? (trim q) with
  | some (.finite negative s p) =>
    let (n, d) := Number.scaled s p
    if n ≤ d && !(negative && s != 0) then thousandths s p else 0
  | _ => 0

def parameterWeight? (parameter : List Char) : Option Nat :=
  (after? "q=".toList (trim parameter)).map weight

def ofItem? (item : List Char) : Option (Nat × String) :=
  let pieces := item.splitOn ';'
  let value := trim (pieces.headD [])
  let w := (pieces.tail.findSome? parameterWeight?).getD 1000
  if value.isEmpty || w == 0 then none else some (w, String.ofList value)

def items (lines : List String) : List (Nat × String) :=
  lines.flatMap fun line => (line.toList.splitOn ',').filterMap ofItem?

def ranked (lines : List String) : List String :=
  ((items lines).mergeSort fun a b => a.1 ≥ b.1).map (·.2)

end HttpRequest.Preference
