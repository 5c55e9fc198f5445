import HttpRequest.Attribute.Layers

/-! # Attributes that outlive a layer

While a layer lies on top, names are written and further layers come and go. A write goes down until a
layer owns its name, whether or not the name can be read from the top. So of all that is written above
some attributes, what reaches them is what no layer in between owns, and they are changed as if it had
been written to them alone.
-/
namespace HttpRequest

def Space.keys (s : Space) : List String :=
  DispatchField.all.map s.key

theorem Space.mem_keys_iff (s : Space) (name : String) : name ∈ s.keys ↔ ∃ f, s.field? name = some f := by
  constructor
  · intro own
    obtain ⟨f,-,rfl⟩ := List.mem_map.mp own
    exact ⟨f,s.field?_key f⟩
  · rintro ⟨f,named⟩
    rw [eq_key_of_field? named]
    exact List.mem_map_of_mem (DispatchField.mem_all f)

/-- What is done to attributes in layers. A name that is put without a value is removed. -/
inductive LayerStep where
  | put (name : String) (value : Option AttributeValue)
  | push (space : Space) (record : DispatchRecord)
  | pop

namespace LayerStep

/-- As many layers are taken off as are put on and as there were more to begin with, and none of those
that lie below. -/
def Balanced : Nat → List LayerStep → Prop
  | more, [] => more = 0
  | more, put _ _ :: rest => Balanced more rest
  | more, push _ _ :: rest => Balanced (more + 1) rest
  | 0, pop :: _ => False
  | more + 1, pop :: rest => Balanced more rest

/-- The writes whose name was, when they were made, of none of the layers put on and not yet taken off.
The spaces of these layers are given, the topmost first. -/
def surviving : List Space → List LayerStep → List (String × Option AttributeValue)
  | _, [] => []
  | above, put name value :: rest =>
    if ∃ space ∈ above, name ∈ space.keys then surviving above rest
    else (name, value) :: surviving above rest
  | above, push space _ :: rest => surviving (space :: above) rest
  | above, pop :: rest => surviving above.tail rest

end LayerStep

namespace Attributes

open LayerStep

def apply (a : Attributes) : LayerStep → Attributes
  | .put name value => (a.put name value).2
  | .push space record => a.push space record
  | .pop => a.pop.2

def applyAll (a : Attributes) (steps : List LayerStep) : Attributes :=
  steps.foldl apply a

def putAll (a : Attributes) (writes : List (String × Option AttributeValue)) : Attributes :=
  writes.foldl (fun a write => (a.put write.1 write.2).2) a

def under (a : Attributes) (above : List Layer) : Attributes :=
  { a with layers := above ++ a.layers }

variable {a : Attributes} {name : String}

theorem put_under_of_owned {above : List Layer} (owned : ∃ space ∈ above.map (·.space), name ∈ space.keys)
    (value : Option AttributeValue) :
    ∃ changed, changed.map (·.space) = above.map (·.space) ∧
      ((a.under above).put name value).2 = a.under changed := by
  induction above with
  | nil => simp at owned
  | cons layer below ih =>
    unfold put under
    rw [List.cons_append, putThrough]
    cases field : layer.space.field? name with
    | some f => exact ⟨{ layer with record := layer.record.put f value } :: below,rfl,rfl⟩
    | none =>
      have elsewhere : ∃ space ∈ below.map (·.space), name ∈ space.keys := by
        obtain ⟨space,mem,own⟩ := owned
        rcases List.mem_cons.mp mem with rfl | mem
        · obtain ⟨f,named⟩ := (layer.space.mem_keys_iff name).mp own
          cases field.symm.trans named
        · exact ⟨space,mem,own⟩
      obtain ⟨changed,spaces,stays⟩ := ih elsewhere
      refine ⟨layer :: changed,congrArg (layer.space :: ·) spaces,?_⟩
      exact congrArg (fun left : Attributes => left.under [layer]) stays

theorem put_under_of_free {above : List Layer} (free : ¬∃ space ∈ above.map (·.space), name ∈ space.keys)
    (value : Option AttributeValue) :
    ((a.under above).put name value).2 = (a.put name value).2.under above := by
  induction above with
  | nil => rfl
  | cons layer below ih =>
    have foreign : layer.space.field? name = none := by
      cases field : layer.space.field? name with
      | none => rfl
      | some f =>
        have own := (layer.space.mem_keys_iff name).mpr ⟨f,field⟩
        exact absurd ⟨layer.space,List.mem_cons_self,own⟩ free
    have passes := ih fun ⟨space,mem,own⟩ => free ⟨space,List.mem_cons_of_mem _ mem,own⟩
    unfold put under
    rw [List.cons_append, putThrough]
    simp only [foreign]
    exact congrArg (fun left : Attributes => left.under [layer]) passes

theorem applyAll_under {steps : List LayerStep} {above : List Layer} {more : Nat} {lowest : Space}
    (balanced : Balanced more steps) (height : above.length = more + 1)
    (last : (above.map (·.space)).getLast? = some lowest) :
    ∃ layer : Layer, layer.space = lowest ∧
      (a.under above).applyAll steps = (a.putAll (surviving (above.map (·.space)) steps)).under [layer] := by
  -- By induction on the steps: what lies below changes by the surviving writes alone, and in the
  -- end one layer is left above it, the lowest.
  induction steps generalizing a above more with
  | nil =>
    cases balanced
    obtain ⟨layer,rfl⟩ := List.length_eq_one_iff.mp height
    exact ⟨layer,Option.some.inj last,rfl⟩
  | cons step rest ih =>
    cases step with
    | put name value =>
      by_cases owned : ∃ space ∈ above.map (·.space), name ∈ space.keys
      · obtain ⟨changed,spaces,stays⟩ := put_under_of_owned (a := a) owned value
        have same : changed.length = above.length := by simpa using congrArg List.length spaces
        obtain ⟨layer,kind,left⟩ := ih (a := a) balanced (same.trans height) (spaces ▸ last)
        refine ⟨layer,kind,?_⟩
        rw [surviving, if_pos owned, ← spaces, ← left, ← stays]
        rfl
      · obtain ⟨layer,kind,left⟩ := ih (a := (a.put name value).2) balanced height last
        refine ⟨layer,kind,?_⟩
        rw [surviving, if_neg owned]
        refine Eq.trans ?_ left
        rw [← put_under_of_free owned]
        rfl
    | push space record =>
      have higher : (⟨space,record⟩ :: above : List Layer).length = more + 1 + 1 := congrArg (· + 1) height
      have same : ((⟨space,record⟩ :: above : List Layer).map (·.space)).getLast? = some lowest := by
        rw [List.map_cons, List.getLast?_cons, last]
        rfl
      exact ih (a := a) balanced higher same
    | pop =>
      cases more with
      | zero => exact balanced.elim
      | succ more =>
        cases above with
        | nil => cases height
        | cons top below =>
          have lower : below.length = more + 1 := Nat.succ.inj height
          have same : (below.map (·.space)).getLast? = some lowest := by
            cases below with
            | nil => cases lower
            | cons next others => simpa using last
          exact ih (a := a) balanced lower same

def nestedWrites : List LayerStep :=
  [.put "seen" (some (.text "first")), .put (Space.include.key .pathInfo) (some (.text "/rewritten")),
    .put (Space.forward.key .requestUri) (some (.text "/hidden")), .push .forward {},
    .put (Space.forward.key .requestUri) (some (.text "/inner")),
    .put (Space.include.key .mapping) (some (.text "outer")), .put "seen" none,
    .put "seen" (some (.text "last")), .pop]

end Attributes

end HttpRequest
