import HttpRequest.Proofs.Attribute.Survival

/-! # Owners of names

A name belongs to the topmost layer that has it among its six names, and to the base table if no layer
has. A write goes to the owner through everything above it, and a read does not always get that far:
a layer above the owner stops it if the name is of the other space. So a write can be hidden from the
top; it still reaches the owner, and it changes no other name, neither seen from the top nor from any
of the layers below.
-/
namespace HttpRequest

def Layer.held (layer : Layer) (name : String) : Option AttributeValue :=
  (layer.space.field? name).bind layer.record.get?

theorem Space.other_holds_iff (s : Space) (name : String) :
    s.other.holds name = true ↔ ∃ space : Space, space.holds name = true ∧ s ≠ space := by
  constructor
  · intro held
    exact ⟨s.other,held,by cases s <;> simp [other]⟩
  · rintro ⟨space,held,apart⟩
    have same : space = s.other := by cases s <;> cases space <;> simp_all [other]
    rwa [← same]

namespace Attributes

def owner? (a : Attributes) (name : String) : Option Layer :=
  a.layers.find? fun layer => name ∈ layer.space.keys

/-- The layers above the owner of a name, which are all of them if no layer has it. -/
def aboveOwner (a : Attributes) (name : String) : List Layer :=
  a.layers.takeWhile fun layer => name ∉ layer.space.keys

/-- What the owner of a name holds for it, whether or not it can be read from the top. -/
def held (a : Attributes) (name : String) : Option AttributeValue :=
  match a.owner? name with
  | some layer => layer.held name
  | none => a.base.get? name

/-- The name is of a space, and a layer above its owner is of the other one. -/
def Hidden (a : Attributes) (name : String) : Prop :=
  ∃ space : Space, space.holds name = true ∧ ∃ layer ∈ a.aboveOwner name, layer.space ≠ space

/-- What is left when as many layers are taken off, or all if there are not so many. -/
def popped (a : Attributes) : Nat → Attributes
  | 0 => a
  | n + 1 => (a.popped n).pop.2

theorem hidden_iff (a : Attributes) (name : String) :
    a.Hidden name ↔ ∃ layer ∈ a.aboveOwner name, layer.space.other.holds name = true := by
  simp only [Space.other_holds_iff]
  constructor
  · rintro ⟨space,held,layer,mem,apart⟩
    exact ⟨layer,mem,space,held,apart⟩
  · rintro ⟨layer,mem,space,held,apart⟩
    exact ⟨space,held,layer,mem,apart⟩

instance (a : Attributes) (name : String) : Decidable (a.Hidden name) :=
  decidable_of_iff _ (a.hidden_iff name).symm

theorem popped_eq (a : Attributes) (n : Nat) : a.popped n = { a with layers := a.layers.drop n } := by
  induction n with
  | zero => rfl
  | succ n ih => simp [popped, pop, ih]

section Layers
variable {name : String} {value : Option AttributeValue} {base : AttributeTable} {layer : Layer}
  {below : List Layer} {f : DispatchField}

theorem put_own (own : layer.space.field? name = some f) : (⟨layer :: below,base⟩ : Attributes).put name value =
    (layer.record.get? f,⟨{ layer with record := layer.record.put f value } :: below,base⟩) := by
  simp only [put, putThrough, own]

theorem put_foreign (foreign : layer.space.field? name = none) :
    (⟨layer :: below,base⟩ : Attributes).put name value =
      (((⟨below,base⟩ : Attributes).put name value).1,
        ((⟨below,base⟩ : Attributes).put name value).2.under [layer]) := by
  simp only [put, putThrough, foreign]
  rfl

theorem get?_own (own : layer.space.field? name = some f) :
    (⟨layer :: below,base⟩ : Attributes).get? name = layer.record.get? f := by
  simp only [get?, getThrough, own]

theorem get?_foreign (foreign : layer.space.field? name = none) :
    (⟨layer :: below,base⟩ : Attributes).get? name =
      if layer.space.other.holds name then none else (⟨below,base⟩ : Attributes).get? name := by
  simp only [get?, getThrough, foreign]

theorem held_own (own : layer.space.field? name = some f) :
    (⟨layer :: below,base⟩ : Attributes).held name = layer.record.get? f := by
  have mine : name ∈ layer.space.keys := (layer.space.mem_keys_iff name).mpr ⟨f,own⟩
  simp [held, owner?, mine, Layer.held, own]

theorem not_mem_keys (foreign : layer.space.field? name = none) : name ∉ layer.space.keys := by
  simp [Space.mem_keys_iff, foreign]

theorem held_foreign (foreign : layer.space.field? name = none) :
    (⟨layer :: below,base⟩ : Attributes).held name = (⟨below,base⟩ : Attributes).held name := by
  simp [held, owner?, not_mem_keys foreign]

theorem not_hidden_own (own : layer.space.field? name = some f) : ¬(⟨layer :: below,base⟩ : Attributes).Hidden name := by
  have mine : name ∈ layer.space.keys := (layer.space.mem_keys_iff name).mpr ⟨f,own⟩
  simp [hidden_iff, aboveOwner, mine]

theorem hidden_foreign_iff (foreign : layer.space.field? name = none) :
    (⟨layer :: below,base⟩ : Attributes).Hidden name ↔
      layer.space.other.holds name = true ∨ (⟨below,base⟩ : Attributes).Hidden name := by
  simp [hidden_iff, aboveOwner, not_mem_keys foreign]

end Layers

variable (name : String) (value : Option AttributeValue)

theorem put_held (a : Attributes) : (a.put name value).1 = a.held name ∧ (a.put name value).2.held name = value := by
  obtain ⟨layers,base⟩ := a
  induction layers with
  | nil => exact ⟨rfl,base.get?_put_same name value⟩
  | cons layer below ih =>
    cases field : layer.space.field? name with
    | some f =>
      rw [put_own field, held_own field]
      have same : ({ layer with record := layer.record.put f value } : Layer).space.field? name = some f := field
      exact ⟨rfl,(held_own same).trans (layer.record.get?_put_same f value)⟩
    | none =>
      rw [put_foreign field, held_foreign field]
      exact ⟨ih.1,(held_foreign field).trans ih.2⟩

theorem get?_put_same (a : Attributes) :
    (a.put name value).2.get? name = if a.Hidden name then none else value := by
  -- By induction on the layers: a read comes down to the owner unless a layer above it hides the
  -- name.
  obtain ⟨layers,base⟩ := a
  induction layers with
  | nil =>
    have open_ : ¬(⟨[],base⟩ : Attributes).Hidden name := by simp [hidden_iff, aboveOwner]
    rw [if_neg open_]
    exact base.get?_put_same name value
  | cons layer below ih =>
    cases field : layer.space.field? name with
    | some f =>
      rw [put_own field, if_neg (not_hidden_own field)]
      have same : ({ layer with record := layer.record.put f value } : Layer).space.field? name = some f := field
      exact (get?_own same).trans (layer.record.get?_put_same f value)
    | none =>
      rw [put_foreign field]
      refine (get?_foreign field).trans ?_
      by_cases hides : layer.space.other.holds name = true
      · simp [hidden_foreign_iff field, hides]
      · simpa [hidden_foreign_iff field, hides] using ih

theorem get?_put_of_ne {other : String} (apart : other ≠ name) (a : Attributes) (n : Nat) :
    ((a.put name value).2.popped n).get? other = (a.popped n).get? other := by
  -- By induction on the layers: what is read of another name, from the top or from further down,
  -- passes by what was written.
  rw [popped_eq, popped_eq]
  obtain ⟨layers,base⟩ := a
  induction layers generalizing n with
  | nil => simpa [put, putThrough, get?, getThrough] using base.get?_put_of_ne apart value
  | cons layer below ih =>
    cases field : layer.space.field? name with
    | some f =>
      rw [put_own field]
      cases n with
      | zero =>
        cases read : layer.space.field? other with
        | some g =>
          have distinct : g ≠ f := by
            rintro rfl
            exact apart ((Space.eq_key_of_field? read).trans (Space.eq_key_of_field? field).symm)
          simpa [get?, getThrough, read] using layer.record.get?_put_of_ne distinct value
        | none => simp [get?, getThrough, read]
      | succ n => simp
    | none =>
      rw [put_foreign field]
      cases n with
      | zero =>
        cases read : layer.space.field? other with
        | some g => simp [under, get?, getThrough, read]
        | none => simpa [under, get?, getThrough, read] using congrArg (ite _ none) (ih 0)
      | succ n => simpa [under] using ih n

/-- A value is put under a name or, without a value, the name is removed. The answer is what the owner
of the name held, and from then on the owner holds the value. It is what can be read under the name,
unless the name is hidden, and then nothing can. Whatever is read under another name stays as it was,
however many layers are taken off first. -/
theorem put_lawful (a : Attributes) :
    (a.put name value).1 = a.held name ∧
      (a.put name value).2.held name = value ∧
      (a.put name value).2.get? name = (if a.Hidden name then none else value) ∧
      ∀ other n, other ≠ name → ((a.put name value).2.popped n).get? other = (a.popped n).get? other := by
  obtain ⟨answer,reached⟩ := put_held name value a
  refine ⟨answer,reached,get?_put_same name value a,?_⟩
  intro other n apart
  exact get?_put_of_ne name value apart a n

def includedPage : Attributes where
  layers := [⟨.include,{}⟩,⟨.forward,{ requestUri := some (.text "/start") }⟩]
  base := ⟨[("seen",.text "first")]⟩

/-- A name of the forward is written under the include, where it is hidden; the attribute in the table is
as before, also when the include is over. -/
theorem includedPage_lawful :
    "seen" ≠ Space.forward.key .requestUri ∧
      includedPage.Hidden (Space.forward.key .requestUri) ∧
      (includedPage.put (Space.forward.key .requestUri) (some (.text "/moved"))).1 = some (.text "/start") ∧
      (includedPage.put (Space.forward.key .requestUri) (some (.text "/moved"))).2.get?
        (Space.forward.key .requestUri) = none ∧
      ((includedPage.put (Space.forward.key .requestUri) (some (.text "/moved"))).2.popped 1).get? "seen" =
        some (.text "first") := by
  have apart : "seen" ≠ Space.forward.key .requestUri := by decide
  have hidden : includedPage.Hidden (Space.forward.key .requestUri) := by decide
  obtain ⟨answer,-,read,others⟩ := put_lawful (Space.forward.key .requestUri) (some (.text "/moved")) includedPage
  rw [if_pos hidden] at read
  exact ⟨apart,hidden,answer,read,others "seen" 1 apart⟩

end Attributes

end HttpRequest
