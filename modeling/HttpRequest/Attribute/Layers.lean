import HttpRequest.Attribute.Name
import HttpRequest.Attribute.Value
import HttpRequest.Failure
import HttpRequest.Text.Sorted

/-! # Layers of attributes

The attributes of a request are a base table and, during nested dispatches, layers on top of it. A
layer owns the six names of its space and hides the other space; every other name belongs to the
layer below. Reading, writing and listing walk down from the top. A write to an own name stays in
its layer and goes with it, and any other write reaches the layer or table that owns the name.
-/
namespace HttpRequest

/-- A table of attributes, each name at most once. -/
structure AttributeTable where
  entries : List (String × AttributeValue) := []
deriving Repr, BEq, Inhabited

namespace AttributeTable

def get? (t : AttributeTable) (name : String) : Option AttributeValue :=
  t.entries.lookup name

def put (t : AttributeTable) (name : String) (value : Option AttributeValue) : AttributeTable :=
  let others := t.entries.filter fun entry => entry.1 != name
  match value with
  | some v => ⟨(name, v) :: others⟩
  | none => ⟨others⟩

@[simp] theorem get?_put_same (t : AttributeTable) (name : String) (value : Option AttributeValue) :
    (t.put name value).get? name = value := by
  cases value with
  | none =>
    rw [put, get?, List.lookup_eq_none_iff]
    intro entry mem
    have apart := (List.mem_filter.mp mem).2
    exact bne_comm.trans apart
  | some v => simp [put, get?]

theorem get?_put_of_ne (t : AttributeTable) {name other : String} (apart : other ≠ name)
    (value : Option AttributeValue) : (t.put name value).get? other = t.get? other := by
  have others : (t.entries.filter fun entry => entry.1 != name).lookup other = t.entries.lookup other := by
    induction t.entries with
    | nil => rfl
    | cons entry rest ih =>
      by_cases same : entry.1 = name
      · rw [List.filter_cons_of_neg (by simp [same]), ih, List.lookup_cons, beq_false_of_ne (same ▸ apart)]
      · rw [List.filter_cons_of_pos (by simp [same]), List.lookup_cons, List.lookup_cons, ih]
  unfold put get?
  cases value with
  | none => exact others
  | some v =>
    rw [List.lookup_cons, beq_false_of_ne apart]
    exact others

def names (t : AttributeTable) : List String :=
  Sorted.ofList (t.entries.map (·.1))

def size (t : AttributeTable) : Nat :=
  t.entries.length

def isEmpty (t : AttributeTable) : Bool :=
  t.entries.isEmpty

end AttributeTable

/-- The six values recorded for one dispatch. -/
structure DispatchRecord where
  requestUri : Option AttributeValue := none
  contextPath : Option AttributeValue := none
  handlerPath : Option AttributeValue := none
  pathInfo : Option AttributeValue := none
  queryString : Option AttributeValue := none
  mapping : Option AttributeValue := none
deriving Repr, BEq, Inhabited

namespace DispatchRecord

def get? (r : DispatchRecord) : DispatchField → Option AttributeValue
  | .requestUri => r.requestUri
  | .contextPath => r.contextPath
  | .handlerPath => r.handlerPath
  | .pathInfo => r.pathInfo
  | .queryString => r.queryString
  | .mapping => r.mapping

def put (r : DispatchRecord) (f : DispatchField) (value : Option AttributeValue) : DispatchRecord :=
  match f with
  | .requestUri => { r with requestUri := value }
  | .contextPath => { r with contextPath := value }
  | .handlerPath => { r with handlerPath := value }
  | .pathInfo => { r with pathInfo := value }
  | .queryString => { r with queryString := value }
  | .mapping => { r with mapping := value }

@[simp] theorem get?_put_same (r : DispatchRecord) (f : DispatchField) (value : Option AttributeValue) :
    (r.put f value).get? f = value := by
  cases f <;> rfl

theorem get?_put_of_ne (r : DispatchRecord) {f g : DispatchField} (h : g ≠ f)
    (value : Option AttributeValue) : (r.put f value).get? g = r.get? g := by
  cases f <;> cases g <;> simp_all [put, get?]

def ofFields (value : DispatchField → Option AttributeValue) : DispatchRecord where
  requestUri := value .requestUri
  contextPath := value .contextPath
  handlerPath := value .handlerPath
  pathInfo := value .pathInfo
  queryString := value .queryString
  mapping := value .mapping

@[simp] theorem get?_ofFields (value : DispatchField → Option AttributeValue) (f : DispatchField) :
    (ofFields value).get? f = value f := by
  cases f <;> rfl

def keys (r : DispatchRecord) (s : Space) : List String :=
  (DispatchField.all.filter fun f => (r.get? f).isSome).map s.key

end DispatchRecord

/-- The attributes that one nested dispatch puts on top. -/
structure Layer where
  space : Space
  record : DispatchRecord
deriving Repr, BEq

/-- Layers, the topmost first, above a base table. -/
structure Attributes where
  layers : List Layer := []
  base : AttributeTable := {}
deriving Repr, BEq, Inhabited

namespace Attributes

def getThrough (name : String) (base : AttributeTable) : List Layer → Option AttributeValue
  | [] => base.get? name
  | layer :: below =>
    match layer.space.field? name with
    | some f => layer.record.get? f
    | none => if layer.space.other.holds name then none else getThrough name base below

def get? (a : Attributes) (name : String) : Option AttributeValue :=
  getThrough name a.base a.layers

/-- Writes a name in the topmost layer that owns it, else in the base. The first result is the value
that it had there. -/
def putThrough (name : String) (value : Option AttributeValue) (base : AttributeTable) :
    List Layer → Option AttributeValue × Attributes
  | [] => (base.get? name, ⟨[], base.put name value⟩)
  | layer :: below =>
    match layer.space.field? name with
    | some f =>
      (layer.record.get? f, ⟨{ layer with record := layer.record.put f value } :: below, base⟩)
    | none =>
      let (old, rest) := putThrough name value base below
      (old, ⟨layer :: rest.layers, rest.base⟩)

def put (a : Attributes) (name : String) (value : Option AttributeValue) :
    Option AttributeValue × Attributes :=
  putThrough name value a.base a.layers

def namesThrough (base : AttributeTable) : List Layer → List String
  | [] => base.names
  | layer :: below =>
    let open_ := (namesThrough base below).filter fun name => !isReserved name
    (layer.record.keys layer.space).foldl (fun sorted name => Sorted.insert name sorted) open_

def names (a : Attributes) : List String :=
  namesThrough a.base a.layers

def depth (a : Attributes) : Nat :=
  a.layers.length

def push (a : Attributes) (space : Space) (record : DispatchRecord) : Attributes :=
  { a with layers := ⟨space, record⟩ :: a.layers }

def pop (a : Attributes) : Option Layer × Attributes :=
  (a.layers.head?, { a with layers := a.layers.tail })

def clear (a : Attributes) : Except Failure Unit × Attributes :=
  if a.layers.isEmpty then (.ok (), {})
  else (.error (.illegalState "attributes cannot be cleared during a dispatch"), a)

def record (a : Attributes) (space : Space) : DispatchRecord :=
  DispatchRecord.ofFields fun f => a.get? (space.key f)

end Attributes

end HttpRequest
