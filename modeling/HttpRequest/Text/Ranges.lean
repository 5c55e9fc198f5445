/-! # Ranges of characters

A property of characters is kept as the ranges of code points that have it, both ends included, in
ascending order, so that a search can stop at the first range beyond a character.
-/
namespace HttpRequest

/-- Ranges of code points, both ends included. -/
abbrev CharRanges := List (Nat × Nat)

namespace CharRanges

def holds (c : Char) : CharRanges → Bool
  | [] => false
  | (low, high) :: rest => low ≤ c.toNat && (c.toNat ≤ high || holds c rest)

end CharRanges

end HttpRequest
