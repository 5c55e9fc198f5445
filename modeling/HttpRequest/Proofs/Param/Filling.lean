import HttpRequest.Proofs.Param.Limit

/-! # Tables filled in several ways

A table is filled pair by pair, by all values of one name, from another table or from a form. However it is
filled, it is the table of the list of the pairs that were added, also when a form breaks off within: then the
pairs before the fault, or up to the first name too many, are in the list.
-/
namespace HttpRequest

namespace Form

/-- The pairs of a form that can be read, up to the first that cannot. -/
def readable (charset : Charset) : List (Octets × Octets) → List (String × String)
  | [] => []
  | raw :: rest =>
    match pair charset raw with
    | .ok read => read :: readable charset rest
    | .error _ => []

/-- The pairs that are added behind others, up to the first with which the names pass the limit. -/
def admitted (limit : Option Nat) (before : List (String × String)) :
    List (String × String) → List (String × String)
  | [] => []
  | pair :: rest =>
    pair :: if limit.any (· < (firstSeen (before ++ [pair])).length) then []
      else admitted limit (before ++ [pair]) rest

theorem addPairs_read {charset : Charset} {raw : Octets × Octets} {name value : String}
    (read : pair charset raw = .ok (name,value)) (limit : Option Nat) (t : ParamTable)
    (rest : List (Octets × Octets)) :
    (addPairs charset limit t (raw :: rest)).2 =
      if limit.any (· < (t.add name value).size) then t.add name value
      else (addPairs charset limit (t.add name value) rest).2 := by
  cases limit with
  | none => rw [addPairs_unlimited read]; rfl
  | some limit =>
    rcases Nat.lt_or_ge limit (t.add name value).size with beyond | fits
    · rw [addPairs_of_exceeds read beyond, Option.any_some, if_pos (decide_eq_true beyond)]
    · rw [addPairs_of_fits read fits, Option.any_some, if_neg (by simpa using fits)]

theorem addPairs_ofPairs (charset : Charset) (limit : Option Nat) (before : List (String × String))
    (raws : List (Octets × Octets)) :
    (addPairs charset limit (.ofPairs before) raws).2 =
      .ofPairs (before ++ admitted limit before (readable charset raws)) := by
  -- By induction on the pairs of the form: the table of the pairs so far has as many names as
  -- they have, so the limit stops it where it stops the list.
  induction raws generalizing before with
  | nil => simp [addPairs, readable, admitted]
  | cons raw rest ih =>
    cases read : pair charset raw with
    | error f => simp [addPairs_of_fault read, readable, read, admitted]
    | ok added =>
      have grown : (ParamTable.ofPairs before).add added.1 added.2 = .ofPairs (before ++ [added]) :=
        (ParamTable.ofPairs_append before [added]).symm
      have size : (ParamTable.ofPairs (before ++ [added])).size = (firstSeen (before ++ [added])).length := by
        rw [ParamTable.size_eq, ParamTable.names_ofPairs]
      simp only [addPairs_read read, grown, size, readable, read, admitted]
      split
      next beyond => rfl
      next fits => rw [ih, List.append_assoc]; rfl

end Form

namespace ParamTable

/-- A way to fill a table. -/
inductive Filling where
  | one (name value : String)
  | all (name : String) (values : List String)
  | table (other : ParamTable)
  | form (input : Octets) (charset : Charset) (limit : Option Nat)

namespace Filling

def apply (t : ParamTable) : Filling → ParamTable
  | one name value => t.add name value
  | all name values => t.addAll name values
  | table other => t.append other
  | form input charset limit => (Form.decodeInto t input charset limit).2

/-- The pairs that are added behind those that were added before. -/
def pairs (before : List (String × String)) : Filling → List (String × String)
  | one name value => [(name,value)]
  | all name values => values.map (name,·)
  | table other => other.pairs
  | form input charset limit => Form.admitted limit before (Form.readable charset (Form.rawPairs input))

theorem apply_ofPairs (before : List (String × String)) (f : Filling) :
    f.apply (ofPairs before) = ofPairs (before ++ f.pairs before) := by
  cases f with
  | one name value => exact (ofPairs_append before [(name,value)]).symm
  | all name values => exact (addAll_eq _ name values).trans (ofPairs_append ..).symm
  | table other => exact (append_eq _ other).trans (ofPairs_append ..).symm
  | form input charset limit => exact Form.addPairs_ofPairs charset limit before _

end Filling

def filled (fillings : List Filling) : ParamTable :=
  fillings.foldl Filling.apply ∅

def listed (fillings : List Filling) : List (String × String) :=
  fillings.foldl (fun before f => before ++ f.pairs before) []

theorem filled_eq (fillings : List Filling) : filled fillings = ofPairs (listed fillings) := by
  rw [listed, ← List.foldl_hom ofPairs Filling.apply_ofPairs]
  rfl

/-- A table that was filled in any way shows its pairs: of a name the values that it has in the list, in
order, and its place among the names; the names once each, as they were first seen; and no place that is found
lies outside of the entries. To another table it adds its values name by name. -/
theorem filled_shows (fillings : List Filling) :
    let t := filled fillings
    let pairs := listed fillings
    (∀ name, t.values name = valuesOf pairs name ∧ t.value? name = (valuesOf pairs name).head? ∧
        (t.contains name = true ↔ name ∈ pairs.map (·.1)) ∧
        t.index[name]? = (firstSeen pairs).idxOf? name ∧ (t.index[name]?).all (· < t.entries.size) = true) ∧
      t.names = firstSeen pairs ∧ t.size = (firstSeen pairs).length ∧
      t.toList = (firstSeen pairs).map (fun name => (name,valuesOf pairs name)) ∧
      t.pairs = (firstSeen pairs).flatMap fun name => (valuesOf pairs name).map (name,·) := by
  intro t pairs
  have table : t = ofPairs pairs := filled_eq fillings
  have named : t.names = firstSeen pairs := table ▸ names_ofPairs pairs
  have valued (name : String) : t.values name = valuesOf pairs name := table ▸ values_ofPairs pairs name
  refine ⟨fun name => ⟨valued name,?_,?_,?_,t.index_inside name⟩,named,?_,?_,?_⟩
  · rw [value?, valued]
  · rw [← mem_firstSeen_iff, ← named, mem_names_iff, contains, ← Std.HashMap.isSome_getElem?_eq_contains]
  · rw [← named, index_eq]
  · rw [size_eq, named]
  · simp only [toList_eq, named, valued]
  · simp only [ParamTable.pairs, named, valued]

example : listed [.one "b" "1", .form (octetsOf "a=x&b=2&%zz=3&d=4") .utf8 none, .all "b" ["5"]] =
    [("b","1"), ("a","x"), ("b","2"), ("b","5")] := by
  decide +kernel

end ParamTable

end HttpRequest
