import HttpRequest.Param.Merge

/-! # Values of merged parameter sets

Merging two parameter sets concatenates the values of every name. A table has every name once, so
adding the entries of another table one by one adds exactly the values that it gives to a name.
-/
namespace HttpRequest

namespace ParamTable

theorem names_nodup (t : ParamTable) : t.names.Nodup := by
  have place {k : Nat} {name : String} (h : t.names[k]? = some name) : t.index[name]? = some k := by
    rw [t.indexed, ← h]
    simp [names]
  refine List.pairwise_iff_getElem.mpr ?_
  intro i j hi hj before same
  have first := place (List.getElem?_eq_getElem hi)
  rw [same, place (List.getElem?_eq_getElem hj)] at first
  have equal := Option.some.inj first
  omega

private theorem flatMap_of_mem {entries : List (String × Array String)}
    (distinct : (entries.map (·.1)).Nodup) {entry : String × Array String} (mem : entry ∈ entries) :
    entries.flatMap (fun e => if e.1 = entry.1 then e.2.toList else []) = entry.2.toList := by
  induction entries with
  | nil => simp at mem
  | cons e rest ih =>
    obtain ⟨fresh,distinct⟩ := List.nodup_cons.mp distinct
    rcases List.mem_cons.mp mem with rfl | mem
    · have others : ∀ f ∈ rest, (if f.1 = entry.1 then f.2.toList else []) = [] := by
        intro f hf
        rw [if_neg]
        intro same
        exact fresh (List.mem_map.mpr ⟨f,hf,same⟩)
      simp [List.flatMap_eq_nil_iff.mpr others]
    · have other : e.1 ≠ entry.1 := by
        intro same
        exact fresh (List.mem_map.mpr ⟨entry,mem,same.symm⟩)
      simp [other, ih distinct mem]

theorem values_eq_flatMap (t : ParamTable) (name : String) :
    t.values name = t.entries.toList.flatMap fun e => if e.1 = name then e.2.toList else [] := by
  unfold values
  cases found : t.index[name]? with
  | none =>
    refine (List.flatMap_eq_nil_iff.mpr ?_).symm
    intro e he
    rw [if_neg]
    intro same
    obtain ⟨i,hi⟩ := List.mem_iff_getElem?.mp he
    have there := (t.indexed name i).mpr (by rw [← Array.getElem?_toList, hi, Option.map_some, same])
    simp [found] at there
  | some i =>
    have there := (t.indexed name i).mp found
    cases entry : t.entries[i]? with
    | none => simp [entry] at there
    | some e =>
      have same : e.1 = name := by simpa [entry] using there
      have mem : e ∈ t.entries.toList := by
        rw [← Array.getElem?_toList] at entry
        exact List.mem_of_getElem? entry
      subst same
      simpa only [entry] using (flatMap_of_mem t.names_nodup mem).symm

theorem values_addAll (t : ParamTable) (name : String) (added : List String) (other : String) :
    (t.addAll name added).values other = t.values other ++ if name = other then added else [] := by
  induction added generalizing t with
  | nil => simp [addAll]
  | cons value rest ih =>
    have step := ih (t.add name value)
    simp only [addAll, List.foldl_cons] at step ⊢
    rw [step, values_add]
    by_cases same : name = other
    · simp [same]
    · simp [same]

theorem values_append (t other : ParamTable) (name : String) :
    (t.append other).values name = t.values name ++ other.values name := by
  rw [values_eq_flatMap other, append, ← Array.foldl_toList]
  generalize other.entries.toList = entries
  induction entries generalizing t with
  | nil => simp
  | cons e rest ih => rw [List.foldl_cons, ih, values_addAll, List.flatMap_cons, List.append_assoc]

theorem size_add_empty (name value : String) : ((∅ : ParamTable).add name value).size = 1 := by
  have nowhere : (∅ : ParamTable).index[name]? = none := Std.HashMap.getElem?_empty
  unfold add
  split
  next i present =>
    rw [nowhere] at present
    cases present
  next absent => rfl

end ParamTable

namespace Params

@[simp] theorem values_ofTable (t : ParamTable) (name : String) :
    (ofTable t).values name = t.values name := by
  unfold ofTable
  split
  next isEmpty =>
    have noEntries : t.entries = #[] := Array.isEmpty_iff.mp isEmpty
    simp [values, ParamTable.values_eq_flatMap, noEntries]
  · rfl

/-- Merging puts all values of the first set before those of the second, name by name. -/
theorem values_merge (first second : Params) (name : String) :
    (first.merge second).values name = first.values name ++ second.values name := by
  cases first with
  | empty => simp [merge, values]
  | table a =>
    cases second with
    | empty => simp [merge, values]
    | table b => rw [merge, values_ofTable, ParamTable.values_append]; rfl

end Params

end HttpRequest
