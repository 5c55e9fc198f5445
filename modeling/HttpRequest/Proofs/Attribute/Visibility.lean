import HttpRequest.Attribute.Layers

/-! # Names that are listed and names that can be read

Listing and reading both walk down the layers, but by different rules: reading stops at the first layer
that owns a name or hides it, listing puts the own names of each layer to those that come through from
below. They agree because a name of neither space passes every layer in both, and a name of a space
comes through none in a listing.
-/
namespace HttpRequest

theorem AttributeTable.mem_names_iff (t : AttributeTable) (name : String) :
    name ∈ t.names ↔ (t.get? name).isSome := by
  rw [names, Sorted.mem_ofList, get?, List.lookup_isSome_iff, List.mem_map]
  constructor
  · rintro ⟨entry,mem,rfl⟩
    exact ⟨entry,mem,beq_self_eq_true entry.1⟩
  · rintro ⟨entry,mem,same⟩
    exact ⟨entry,mem,(eq_of_beq same).symm⟩

theorem DispatchRecord.mem_keys_iff (r : DispatchRecord) (space : Space) (name : String) :
    name ∈ r.keys space ↔ ∃ f, (r.get? f).isSome ∧ name = space.key f := by
  simp only [keys, List.mem_map, List.mem_filter]
  constructor
  · rintro ⟨f,⟨-,present⟩,rfl⟩
    exact ⟨f,present,rfl⟩
  · rintro ⟨f,present,rfl⟩
    exact ⟨f,⟨DispatchField.mem_all f,present⟩,rfl⟩

namespace Attributes

/-- A name that may be listed: one of neither space, or one of the six that the topmost layer owns. -/
def Listable (a : Attributes) (name : String) : Prop :=
  ∀ top, a.layers.head? = some top → isReserved name = false ∨ ∃ f, name = top.space.key f

section Layers
variable {name : String} {base : AttributeTable} {layer : Layer} {below : List Layer}

theorem getThrough_key (f : DispatchField) :
    getThrough (layer.space.key f) base (layer :: below) = layer.record.get? f := by
  simp only [getThrough, Space.field?_key]

theorem getThrough_of_not_isReserved (free : isReserved name = false) :
    getThrough name base (layer :: below) = getThrough name base below := by
  have outside : layer.space.field? name = none :=
    Space.field?_of_not_holds (not_holds_of_not_isReserved free layer.space)
  simp only [getThrough, outside, not_holds_of_not_isReserved free layer.space.other]
  rfl

theorem getThrough_of_other (held : layer.space.other.holds name = true) :
    getThrough name base (layer :: below) = none := by
  have notOwn : layer.space.holds name = false := by
    have other := Space.holds_other held
    cases space : layer.space <;> rwa [space] at other
  simp only [getThrough, Space.field?_of_not_holds notOwn, held, if_true]

theorem mem_namesThrough_cons_iff :
    name ∈ namesThrough base (layer :: below) ↔
      (∃ f, (layer.record.get? f).isSome ∧ name = layer.space.key f) ∨
        name ∈ namesThrough base below ∧ isReserved name = false := by
  simp only [namesThrough, Sorted.mem_foldl_insert, DispatchRecord.mem_keys_iff, List.mem_filter,
    Bool.not_eq_true']

theorem mem_namesThrough_iff (name : String) (base : AttributeTable) (layers : List Layer) :
    name ∈ namesThrough base layers ↔
      (getThrough name base layers).isSome ∧ Listable ⟨layers,base⟩ name := by
  induction layers with
  | nil => simp [namesThrough, getThrough, AttributeTable.mem_names_iff, Listable]
  | cons layer below ih =>
    have listable : Listable ⟨layer :: below,base⟩ name ↔
        isReserved name = false ∨ ∃ f, name = layer.space.key f := by
      simp [Listable]
    rw [mem_namesThrough_cons_iff, listable]
    by_cases own : ∃ f, name = layer.space.key f
    · obtain ⟨f,rfl⟩ := own
      have reserved := isReserved_of_holds (layer.space.holds_key f)
      have itself (g : DispatchField) (same : layer.space.key f = layer.space.key g) : f = g := by
        have read := congrArg layer.space.field? same
        rw [Space.field?_key, Space.field?_key] at read
        exact Option.some.inj read
      rw [getThrough_key]
      constructor
      · rintro (⟨g,present,same⟩ | ⟨-,free⟩)
        · exact ⟨itself g same ▸ present,.inr ⟨f,rfl⟩⟩
        · simp [reserved] at free
      · rintro ⟨present,-⟩
        exact .inl ⟨f,present,rfl⟩
    · have foreign : ¬∃ f, (layer.record.get? f).isSome ∧ name = layer.space.key f :=
        fun ⟨f,_,same⟩ => own ⟨f,same⟩
      simp only [foreign, own, false_or, or_false]
      cases free : isReserved name with
      | false =>
        have passes : Listable ⟨below,base⟩ name := fun _ _ => .inl free
        rw [getThrough_of_not_isReserved free, ih]
        simp [passes]
      | true => simp

theorem namesThrough_pairwise (base : AttributeTable) (layers : List Layer) :
    (namesThrough base layers).Pairwise (· < ·) := by
  induction layers with
  | nil => exact Sorted.pairwise_ofList _
  | cons layer below ih => exact Sorted.pairwise_foldl_insert _ (ih.filter _)

end Layers

/-- Listing and reading agree for any layers above any table, so whatever was pushed, popped, written
and removed. The names are listed in order and each once; a name is listed exactly when it can be read
and, under a layer, belongs to neither space or is one of the six of the topmost layer; and under a
layer nothing of the other space is listed or can be read. -/
theorem names_agree (a : Attributes) :
    a.names.Pairwise (· < ·) ∧
      (∀ name, name ∈ a.names ↔ (a.get? name).isSome ∧ a.Listable name) ∧
      ∀ top, a.layers.head? = some top → ∀ name, top.space.other.holds name = true →
        name ∉ a.names ∧ a.get? name = none := by
  have listed (name : String) : name ∈ a.names ↔ (a.get? name).isSome ∧ a.Listable name :=
    mem_namesThrough_iff name a.base a.layers
  refine ⟨namesThrough_pairwise a.base a.layers,listed,?_⟩
  intro top first name hidden
  obtain ⟨below,layers⟩ := List.head?_eq_some_iff.mp first
  have unread : a.get? name = none := by
    rw [get?, layers]
    exact getThrough_of_other hidden
  refine ⟨?_,unread⟩
  rw [listed, unread]
  simp

end Attributes

end HttpRequest
