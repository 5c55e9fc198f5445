/-! # Sorted lists of names

Names are compared by the code points of their characters. A sorted list of names holds each name
once; insertion keeps it so.
-/
namespace HttpRequest.Sorted

def insert (name : String) : List String → List String
  | [] => [name]
  | x :: xs =>
    if name < x then name :: x :: xs
    else if name = x then x :: xs
    else x :: insert name xs

def ofList (names : List String) : List String :=
  names.foldl (fun sorted name => insert name sorted) []

theorem mem_insert {name other : String} {sorted : List String} :
    other ∈ insert name sorted ↔ other = name ∨ other ∈ sorted := by
  induction sorted with
  | nil => simp [insert]
  | cons x xs ih =>
    unfold insert
    split
    · simp
    · split
      next same => simp [same]
      · simp only [List.mem_cons, ih]
        exact or_left_comm

theorem pairwise_insert (name : String) {sorted : List String} (h : sorted.Pairwise (· < ·)) :
    (insert name sorted).Pairwise (· < ·) := by
  induction sorted with
  | nil => simp [insert]
  | cons x xs ih =>
    obtain ⟨first,rest⟩ := List.pairwise_cons.mp h
    unfold insert
    split
    next before =>
      refine List.pairwise_cons.mpr ⟨?_,h⟩
      intro other mem
      rcases List.mem_cons.mp mem with rfl | mem
      · exact before
      · exact String.lt_trans before (first other mem)
    next notBefore =>
      split
      · exact h
      next apart =>
        have behind : x < name := Std.lt_of_le_of_ne (String.not_lt.mp notBefore) (Ne.symm apart)
        refine List.pairwise_cons.mpr ⟨?_,ih rest⟩
        intro other mem
        rcases mem_insert.mp mem with rfl | mem
        · exact behind
        · exact first other mem

theorem mem_foldl_insert {name : String} (names sorted : List String) :
    name ∈ names.foldl (fun sorted name => insert name sorted) sorted ↔ name ∈ names ∨ name ∈ sorted := by
  induction names generalizing sorted with
  | nil => simp
  | cons x xs ih =>
    rw [List.foldl_cons, ih, mem_insert, List.mem_cons]
    exact or_left_comm.trans or_assoc.symm

theorem pairwise_foldl_insert (names : List String) {sorted : List String} (h : sorted.Pairwise (· < ·)) :
    (names.foldl (fun sorted name => insert name sorted) sorted).Pairwise (· < ·) := by
  induction names generalizing sorted with
  | nil => exact h
  | cons x xs ih => exact ih (pairwise_insert x h)

theorem mem_ofList {name : String} {names : List String} : name ∈ ofList names ↔ name ∈ names := by
  rw [ofList, mem_foldl_insert]
  simp

theorem pairwise_ofList (names : List String) : (ofList names).Pairwise (· < ·) :=
  pairwise_foldl_insert names .nil

end HttpRequest.Sorted
