import HttpRequest.Proofs.Param.Names
import Mathlib.Data.List.Induction

/-! # Tables of pairs

A table is the table of a list of pairs: its names are those of the list in the order in which they are first
seen, and the values of a name are those that the list has for it, in order. The index finds each name at its
place among the names, so the entries can be read back as pairs, name by name.
-/
namespace HttpRequest

/-- The names of a list of pairs, in the order in which they are first seen. -/
def firstSeen (pairs : List (String × String)) : List String :=
  (pairs.map (·.1)).eraseDups

def valuesOf (pairs : List (String × String)) (name : String) : List String :=
  (pairs.filter (·.1 = name)).map (·.2)

theorem mem_firstSeen_iff {pairs : List (String × String)} {name : String} :
    name ∈ firstSeen pairs ↔ name ∈ pairs.map (·.1) :=
  List.mem_eraseDups

theorem firstSeen_concat (pairs : List (String × String)) (name value : String) :
    firstSeen (pairs ++ [(name,value)]) = listName (firstSeen pairs) name := by
  rw [firstSeen, List.map_append, List.eraseDups_append, ← firstSeen, listName]
  split
  next known =>
    have seen := mem_firstSeen_iff.mp known
    simp [List.removeAll, seen]
  next new =>
    have unseen := mem_firstSeen_iff.not.mp new
    simp [List.removeAll, unseen, List.eraseDups_cons]

theorem valuesOf_concat (pairs : List (String × String)) (name value other : String) :
    valuesOf (pairs ++ [(name,value)]) other = valuesOf pairs other ++ if name = other then [value] else [] := by
  rw [valuesOf, List.filter_append, List.map_append, ← valuesOf]
  split <;> simp [*]

namespace ParamTable

theorem ofPairs_append (pairs more : List (String × String)) :
    ofPairs (pairs ++ more) = more.foldl (fun t pair => t.add pair.1 pair.2) (ofPairs pairs) :=
  List.foldl_append

theorem values_ofPairs (pairs : List (String × String)) (name : String) :
    (ofPairs pairs).values name = valuesOf pairs name := by
  induction pairs using List.reverseRecOn with
  | nil => exact values_empty name
  | append_singleton pairs pair ih =>
    rw [ofPairs_append, valuesOf_concat, ← ih]
    exact (ofPairs pairs).values_add pair.1 pair.2 name

theorem names_ofPairs (pairs : List (String × String)) : (ofPairs pairs).names = firstSeen pairs := by
  induction pairs using List.reverseRecOn with
  | nil => rfl
  | append_singleton pairs pair ih =>
    rw [ofPairs_append, firstSeen_concat, ← ih]
    exact (ofPairs pairs).names_add pair.1 pair.2

theorem index_eq_some_iff (t : ParamTable) (name : String) (i : Nat) :
    t.index[name]? = some i ↔ t.names[i]? = some name := by
  rw [t.indexed, names, List.getElem?_map, Array.getElem?_toList]

theorem index_eq (t : ParamTable) (name : String) : t.index[name]? = t.names.idxOf? name := by
  refine Option.ext fun i => ?_
  rw [index_eq_some_iff, List.idxOf?_eq_some_iff, List.getElem?_eq_some_iff]
  refine exists_congr fun inside => iff_self_and.mpr ?_
  -- the index has one position for a name, so the name stands at no earlier place
  intro here j before there
  have found := (t.index_eq_some_iff name i).mpr (List.getElem?_eq_some_iff.mpr ⟨inside,here⟩)
  have again := (t.index_eq_some_iff name j).mpr (List.getElem?_eq_some_iff.mpr ⟨Nat.lt_trans before inside,there⟩)
  exact Nat.ne_of_lt before (Option.some.inj (again.symm.trans found))

theorem index_inside (t : ParamTable) (name : String) : (t.index[name]?).all (· < t.entries.size) = true := by
  rw [Option.all_eq_true]
  intro i found
  obtain ⟨inside,-⟩ := List.getElem?_eq_some_iff.mp ((t.index_eq_some_iff name i).mp found)
  simpa [names] using inside

theorem toList_eq (t : ParamTable) : t.toList = t.names.map fun name => (name,t.values name) := by
  rw [toList, names, List.map_map]
  refine List.map_congr_left fun entry mem => ?_
  obtain ⟨i,place⟩ := List.mem_iff_getElem?.mp mem
  rw [Array.getElem?_toList] at place
  have found : t.index[entry.1]? = some i := (t.indexed entry.1 i).mpr (by rw [place, Option.map_some])
  simp [values, found, place]

def pairs (t : ParamTable) : List (String × String) :=
  t.names.flatMap fun name => (t.values name).map (name,·)

theorem addAll_eq (t : ParamTable) (name : String) (values : List String) :
    t.addAll name values = (values.map (name,·)).foldl (fun t pair => t.add pair.1 pair.2) t := by
  rw [List.foldl_map, addAll]

theorem append_eq (t other : ParamTable) :
    t.append other = other.pairs.foldl (fun t pair => t.add pair.1 pair.2) t := by
  calc
    t.append other
    _ = other.toList.foldl (fun t entry => t.addAll entry.1 entry.2) t := by
      rw [append, ← Array.foldl_toList, toList, List.foldl_map]
    _ = other.names.foldl (fun t name => t.addAll name (other.values name)) t := by
      rw [toList_eq, List.foldl_map]
    _ = other.pairs.foldl (fun t pair => t.add pair.1 pair.2) t := by
      rw [pairs, List.foldl_flatMap]
      simp only [addAll_eq]

end ParamTable

end HttpRequest
