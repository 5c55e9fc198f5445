import Std.Data.HashMap

/-! # Multi-valued tables

A table maps a name to one or more values. Names keep the order in which they were first added, and
the values of a name the order in which they were added. An index finds the entry of a name; it holds
the position of every entry and of nothing else. An entry is made with its first value, so none is
without values.
-/
namespace HttpRequest

/-- Names with their values, and where each name stands. -/
structure ParamTable where
  entries : Array (String × Array String) := #[]
  index : Std.HashMap String Nat := ∅
  /-- The index holds the position of every entry and of nothing else. -/
  indexed (name : String) (i : Nat) : index[name]? = some i ↔ (entries[i]?).map (·.1) = some name := by
    simp
  valued (entry : String × Array String) : entry ∈ entries → entry.2 ≠ #[] := by
    simp

namespace ParamTable

def empty : ParamTable := {}

instance : Inhabited ParamTable := ⟨empty⟩

instance : EmptyCollection ParamTable := ⟨empty⟩

private theorem names_modify (entries : Array (String × Array String)) (i j : Nat) (value : String) :
    ((entries.modify i fun entry => (entry.1, entry.2.push value))[j]?).map (·.1) =
      (entries[j]?).map (·.1) := by
  rw [Array.getElem?_modify]
  split
  · cases entries[j]? <;> rfl
  · rfl

private theorem indexed_push (t : ParamTable) {name : String} (absent : t.index[name]? = none)
    (values : Array String) (other : String) (i : Nat) :
    (t.index.insert name t.entries.size)[other]? = some i ↔
      ((t.entries.push (name, values))[i]?).map (·.1) = some other := by
  rw [Std.HashMap.getElem?_insert, Array.getElem?_push]
  by_cases last : i = t.entries.size
  · subst last
    by_cases same : name = other
    · simp [same]
    · have outside := t.indexed other t.entries.size
      simp [same, outside]
  · by_cases same : name = other
    · subst same
      have nowhere := t.indexed name i
      simp only [absent] at nowhere
      simp [last, Ne.symm last, ← nowhere]
    · simp [same, last, t.indexed other i]

private theorem valued_modify (t : ParamTable) (i : Nat) (value : String) (entry : String × Array String)
    (mem : entry ∈ t.entries.modify i fun entry => (entry.1, entry.2.push value)) : entry.2 ≠ #[] := by
  obtain ⟨j, here⟩ := Array.mem_iff_getElem?.mp mem
  rw [Array.getElem?_modify] at here
  split at here
  · obtain ⟨old, -, rfl⟩ := Option.map_eq_some_iff.mp here
    exact Array.push_ne_empty
  · exact t.valued entry (Array.mem_of_getElem? here)

private theorem valued_push (t : ParamTable) (name value : String) (entry : String × Array String)
    (mem : entry ∈ t.entries.push (name, #[value])) : entry.2 ≠ #[] := by
  rcases Array.mem_push.mp mem with before | rfl
  · exact t.valued entry before
  · simp

def add (t : ParamTable) (name value : String) : ParamTable :=
  match absent : t.index[name]? with
  | some i =>
    { t with
      entries := t.entries.modify i fun entry => (entry.1, entry.2.push value)
      indexed := fun other j => by rw [names_modify, t.indexed]
      valued := t.valued_modify i value }
  | none =>
    { entries := t.entries.push (name, #[value])
      index := t.index.insert name t.entries.size
      indexed := t.indexed_push absent #[value]
      valued := t.valued_push name value }

def addAll (t : ParamTable) (name : String) (values : List String) : ParamTable :=
  values.foldl (fun t value => t.add name value) t

def append (t other : ParamTable) : ParamTable :=
  other.entries.foldl (fun t entry => t.addAll entry.1 entry.2.toList) t

def ofPairs (pairs : List (String × String)) : ParamTable :=
  pairs.foldl (fun t pair => t.add pair.1 pair.2) empty

def values (t : ParamTable) (name : String) : List String :=
  match t.index[name]? with
  | some i =>
    match t.entries[i]? with
    | some entry => entry.2.toList
    | none => []
  | none => []

/-- An added value comes behind the values that its name has, and no other name sees it. -/
theorem values_add (t : ParamTable) (name value other : String) :
    (t.add name value).values other = t.values other ++ if name = other then [value] else [] := by
  unfold add
  split
  next i present =>
    have place := (t.indexed name i).mp present
    by_cases same : name = other
    · subst same
      cases entry : t.entries[i]? with
      | none => simp [entry] at place
      | some e => simp [values, present, Array.getElem?_modify, entry]
    · cases found : t.index[other]? with
      | none => simp [values, found, same]
      | some j =>
        have apart : i ≠ j := by
          intro equal
          subst equal
          have there := (t.indexed other i).mp found
          rw [place] at there
          exact same (Option.some.inj there)
        simp [values, found, same, Array.getElem?_modify, apart]
  next absent =>
    by_cases same : name = other
    · subst same
      simp [values, absent]
    · cases found : t.index[other]? with
      | none => simp [values, Std.HashMap.getElem?_insert, found, same]
      | some j =>
        have apart : j ≠ t.entries.size := by
          intro equal
          have there := (t.indexed other j).mp found
          simp [equal] at there
        simp [values, Std.HashMap.getElem?_insert, Array.getElem?_push, found, same, apart]

@[simp] theorem values_empty (name : String) : (∅ : ParamTable).values name = [] := by
  have nowhere : (∅ : ParamTable).index[name]? = none := Std.HashMap.getElem?_empty
  simp [values, nowhere]

def value? (t : ParamTable) (name : String) : Option String :=
  (t.values name).head?

def contains (t : ParamTable) (name : String) : Bool :=
  t.index.contains name

def names (t : ParamTable) : List String :=
  t.entries.toList.map (·.1)

theorem mem_names_iff (t : ParamTable) (name : String) : name ∈ t.names ↔ t.index[name]?.isSome := by
  simp only [names, List.mem_iff_getElem?, List.getElem?_map, Array.getElem?_toList, ← t.indexed,
    Option.isSome_iff_exists]

/-- A name that is new comes behind the names there are; one that is known stays in its place. -/
theorem names_add (t : ParamTable) (name value : String) :
    (t.add name value).names = if name ∈ t.names then t.names else t.names ++ [name] := by
  unfold add
  split
  next i present =>
    rw [if_pos ((t.mem_names_iff name).mpr (present ▸ rfl))]
    refine List.ext_getElem? fun j => ?_
    simpa only [names, List.getElem?_map, Array.getElem?_toList] using names_modify t.entries i j value
  next absent =>
    have new : name ∉ t.names := by simp [mem_names_iff, absent]
    rw [if_neg new]
    simp [names]

def toList (t : ParamTable) : List (String × List String) :=
  t.entries.toList.map fun entry => (entry.1, entry.2.toList)

def size (t : ParamTable) : Nat :=
  t.entries.size

def isEmpty (t : ParamTable) : Bool :=
  t.entries.isEmpty

end ParamTable

end HttpRequest
