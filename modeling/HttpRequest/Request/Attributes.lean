import HttpRequest.Request.Basic

/-! # Attributes of a request and their observers

Setting an attribute tells every observer whether it was added or replaced, and removing one tells them
that it was removed. One attribute also sets the encoding of the query.
-/
namespace HttpRequest

inductive AttributeEvent where
  | added (name : String) (value : AttributeValue)
  | replaced (name : String) (old : AttributeValue)
  | removed (name : String) (old : AttributeValue)
deriving Repr

class AttributeObservers (E : Type) where
  notify : ObserverKey → AttributeEvent → E → E

namespace Request

def withQueryEncoding (r : Request) (name : Option String) : Except Failure Request :=
  match name with
  | none => .ok { r with queryCharset := none }
  | some name => (Charset.named name).map fun charset => { r with queryCharset := some charset }

/-- The encoding of the query that setting an attribute brings about; a bad name changes nothing. -/
def applyQueryEncoding (r : Request) (name : String) (value : AttributeValue) : Request :=
  if name = queryEncodingName then
    match r.withQueryEncoding value.text? with
    | .ok r => r
    | .error _ => r
  else r

def attribute? (r : Request) (name : String) : Option AttributeValue :=
  r.attributes.get? name

section Operations

variable {E : Type} [AttributeObservers E]

/-- Tells every observer of an event, in the order in which they were added. -/
def notifyAll (r : Request) (event : AttributeEvent) (e : E) : E :=
  r.observers.foldl (fun e key => AttributeObservers.notify key event e) e

/-- The event of a name that now has a value: replaced if it had one, else added if it can be read. -/
def setEvent? (name : String) (old now : Option AttributeValue) : Option AttributeEvent :=
  match old with
  | some old => some (.replaced name old)
  | none => now.map (.added name)

def setAttribute (name : String) (value : AttributeValue) (s : Request × E) : Request × E :=
  let r := s.1.applyQueryEncoding name value
  let (old, attributes) := r.attributes.put name (some value)
  let r := { r with attributes }
  match setEvent? name old (r.attribute? name) with
  | some event => (r, r.notifyAll event s.2)
  | none => (r, s.2)

def removeAttribute (name : String) (s : Request × E) : Option AttributeValue × (Request × E) :=
  let r := if name = queryEncodingName then { s.1 with queryCharset := none } else s.1
  let (old, attributes) := r.attributes.put name none
  let r := { r with attributes }
  match old with
  | some value => (old, r, r.notifyAll (.removed name value) s.2)
  | none => (none, r, s.2)

end Operations

def clearAttributes (r : Request) : Except Failure Unit × Request :=
  let (result, attributes) := r.attributes.clear
  (result, { r with attributes })

end Request

end HttpRequest
