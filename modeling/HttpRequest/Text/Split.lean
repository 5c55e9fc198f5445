import HttpRequest.Text.Blank

/-! # Cutting texts

Cutting at the first occurrence of an element, after a known beginning, or after the first occurrence
of a marker, and comparison without regard to the case of ASCII letters. Splitting at every
occurrence is `List.splitOn`, and joining is `List.intercalate`.
-/
namespace HttpRequest

variable {α : Type} [BEq α]

def cutAt (a : α) (xs : List α) : List α × Option (List α) :=
  match xs.dropWhile (· != a) with
  | [] => (xs, none)
  | _ :: rest => (xs.takeWhile (· != a), some rest)

private theorem bne_of_not_mem [LawfulBEq α] {a : α} {xs : List α} (outside : a ∉ xs) :
    ∀ x ∈ xs, (x != a) = true := by
  intro x mem
  rw [bne_iff_ne]
  rintro rfl
  exact outside mem

theorem cutAt_append [LawfulBEq α] {a : α} {front : List α} (outside : a ∉ front) (rest : List α) :
    cutAt a (front ++ a :: rest) = (front, some rest) := by
  have passed := bne_of_not_mem outside
  unfold cutAt
  rw [List.dropWhile_append_of_pos passed, List.takeWhile_append_of_pos passed]
  simp

theorem cutAt_of_not_mem [LawfulBEq α] {a : α} {xs : List α} (outside : a ∉ xs) : cutAt a xs = (xs, none) := by
  have dropped : (xs ++ []).dropWhile (· != a) = [].dropWhile (· != a) :=
    List.dropWhile_append_of_pos (bne_of_not_mem outside)
  rw [List.append_nil, List.dropWhile_nil] at dropped
  simp [cutAt, dropped]

def after? : (start xs : List α) → Option (List α)
  | [], xs => some xs
  | _ :: _, [] => none
  | a :: start, x :: xs => if a == x then after? start xs else none

def afterMarker? (marker : List α) : List α → Option (List α)
  | [] => after? marker []
  | x :: xs =>
    match after? marker (x :: xs) with
    | some rest => some rest
    | none => afterMarker? marker xs

def beforeLast? (a : α) (xs : List α) : Option (List α) :=
  match xs.reverse with
  | [] => none
  | x :: rest => if x == a then some rest.reverse else none

def lowerAscii (s : String) : String :=
  s.map Char.toLower

def upperAscii (s : String) : String :=
  s.map Char.toUpper

def sameIgnoringCase (s t : String) : Bool :=
  s.toList.map Char.toLower == t.toList.map Char.toLower

def trimText (s : String) : String :=
  String.ofList (trim s.toList)

end HttpRequest
