/-! # Blank characters and trimming

A character is blank when Unicode gives it the property White_Space. Trimming removes blank
characters from both ends of a text and nothing else.
-/
namespace HttpRequest

/-- The characters of the Unicode property White_Space. -/
def isBlank (c : Char) : Bool :=
  let n := c.toNat
  (9 ≤ n && n ≤ 13) || n == 0x20 || n == 0x85 || n == 0xA0 || n == 0x1680 ||
    (0x2000 ≤ n && n ≤ 0x200A) || n == 0x2028 || n == 0x2029 || n == 0x202F ||
    n == 0x205F || n == 0x3000

section Trim

variable {α : Type}

def trimWhile (p : α → Bool) (xs : List α) : List α :=
  ((xs.dropWhile p).reverse.dropWhile p).reverse

def trim (xs : List Char) : List Char :=
  trimWhile isBlank xs

/-- The double quotes at both ends removed, however many there are. -/
def trimQuotes (xs : List Char) : List Char :=
  trimWhile (· == '\x22') xs

end Trim

end HttpRequest
