import HttpRequest.Proofs.Param.Merge

/-! # Names of merged parameter sets

A table lists every name once, in the order in which the names came first. Adding the entries of another
table, none of which is without values, adds the names that are new in their order. So merging is
concatenation: of the values for each name, and of the names for those that are new. It follows that
merging is associative, and that an empty set adds nothing on either side.
-/
namespace HttpRequest

/-- A list of distinct names takes up a name: one that is new comes last. -/
def listName (known : List String) (name : String) : List String :=
  if name ∈ known then known else known ++ [name]

theorem foldl_listName (known : List String) {names : List String} (distinct : names.Nodup) :
    names.foldl listName known = known ++ names.filter (· ∉ known) := by
  -- By induction on the names that are taken up: each is new unless it was known before, as they
  -- differ from one another.
  induction names generalizing known with
  | nil => simp
  | cons name rest ih =>
    obtain ⟨apart,distinct⟩ := List.nodup_cons.mp distinct
    rw [List.foldl_cons, ih _ distinct]
    by_cases old : name ∈ known
    · simp [listName, old]
    · have same : rest.filter (· ∉ known ++ [name]) = rest.filter (· ∉ known) := by
        refine List.filter_congr fun other mem => ?_
        have differs : other ≠ name := fun equal => apart (equal ▸ mem)
        simp [differs]
      rw [listName, if_neg old, same, List.filter_cons_of_pos (by simpa using old), List.append_assoc]
      rfl

namespace ParamTable

theorem size_eq (t : ParamTable) : t.size = t.names.length := by
  simp [size, names]

theorem names_addAll_of_mem {t : ParamTable} {name : String} (known : name ∈ t.names) (values : List String) :
    (t.addAll name values).names = t.names := by
  induction values generalizing t with
  | nil => rfl
  | cons value rest ih =>
    have kept : (t.add name value).names = t.names := by rw [names_add, if_pos known]
    exact (ih (kept.symm ▸ known)).trans kept

theorem names_addAll (t : ParamTable) (name : String) {values : List String} (nonempty : values ≠ []) :
    (t.addAll name values).names = listName t.names name := by
  cases values with
  | nil => exact absurd rfl nonempty
  | cons value rest =>
    have first : (t.add name value).names = listName t.names name := t.names_add name value
    have there : name ∈ (t.add name value).names := by
      rw [names_add]
      split
      next known => exact known
      next new => simp
    exact (names_addAll_of_mem there rest).trans first

theorem names_append (t other : ParamTable) :
    (t.append other).names = t.names ++ other.names.filter (· ∉ t.names) := by
  rw [← foldl_listName t.names other.names_nodup]
  have valued : ∀ entry ∈ other.entries.toList, entry.2 ≠ #[] := fun entry mem =>
    other.valued entry (Array.mem_toList_iff.mp mem)
  have listed : other.names = other.entries.toList.map (·.1) := rfl
  rw [append, ← Array.foldl_toList, listed]
  generalize other.entries.toList = entries at valued
  induction entries generalizing t with
  | nil => rfl
  | cons entry rest ih =>
    rw [List.forall_mem_cons] at valued
    have values : entry.2.toList ≠ [] := by simpa using valued.1
    rw [List.foldl_cons, ih _ valued.2, t.names_addAll entry.1 values]
    rfl

end ParamTable

namespace Params

@[simp] theorem names_empty : empty.names = [] := rfl

@[simp] theorem values_empty (name : String) : empty.values name = [] := rfl

theorem names_ofTable (t : ParamTable) : (ofTable t).names = t.names := by
  unfold ofTable
  split
  next isEmpty =>
    have noEntries : t.entries = #[] := Array.isEmpty_iff.mp isEmpty
    simp [names, ParamTable.names, noEntries]
  · rfl

theorem size_eq (p : Params) : p.size = p.names.length := by
  cases p with
  | empty => rfl
  | table t => exact t.size_eq

theorem names_merge (first second : Params) :
    (first.merge second).names = first.names ++ second.names.filter (· ∉ first.names) := by
  cases first with
  | empty => simp [merge, List.filter_eq_self.mpr]
  | table a =>
    cases second with
    | empty => simp [merge]
    | table b => exact (names_ofTable _).trans (a.names_append b)

/-- Two parameter sets show the same names in the same order, the same values and the same size. -/
structure Agrees (p q : Params) : Prop where
  names : p.names = q.names
  values (name : String) : p.values name = q.values name
  size : p.size = q.size

theorem agrees_of {p q : Params} (names : p.names = q.names) (values : ∀ name, p.values name = q.values name) :
    p.Agrees q :=
  ⟨names,values,by rw [size_eq, size_eq, names]⟩

theorem merge_assoc (a b c : Params) : ((a.merge b).merge c).Agrees (a.merge (b.merge c)) := by
  refine agrees_of ?_ fun name => by simp only [values_merge, List.append_assoc]
  simp only [names_merge, List.filter_append, List.filter_filter, List.append_assoc]
  congr 2
  refine List.filter_congr fun name _ => ?_
  by_cases name ∈ a.names <;> simp [*]

/-- For every name the values of the first set come before those of the second; the names of the first set
come before those of the second that are new. Merging is associative, and an empty set changes nothing. -/
theorem merge_concatenates (a b c : Params) :
    (∀ name, (a.merge b).values name = a.values name ++ b.values name) ∧
      (a.merge b).names = a.names ++ b.names.filter (· ∉ a.names) ∧
      ((a.merge b).merge c).Agrees (a.merge (b.merge c)) ∧
      (empty.merge a).Agrees a ∧ (a.merge empty).Agrees a := by
  refine ⟨values_merge a b,names_merge a b,merge_assoc a b c,?_,?_⟩
  · exact agrees_of (by simp [names_merge]) fun name => by simp [values_merge]
  · exact agrees_of (by simp [names_merge]) fun name => by simp [values_merge]

end Params

end HttpRequest
