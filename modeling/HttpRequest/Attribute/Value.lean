import HttpRequest.Json

/-! # Attribute values

An attribute holds a text, the route that matched the request, or a structured value. A structured
value read from outside becomes a text or a route when it has the form of one.
-/
namespace HttpRequest

inductive RouteMatch where
  | contextRoot
  | default
  | exact
  | extension
  | path
deriving DecidableEq, Repr

namespace RouteMatch

def name : RouteMatch → String
  | .contextRoot => "context_root"
  | .default => "default"
  | .exact => "exact"
  | .extension => "extension"
  | .path => "path"

def ofName? : String → Option RouteMatch
  | "context_root" => some .contextRoot
  | "default" => some .default
  | "exact" => some .exact
  | "extension" => some .extension
  | "path" => some .path
  | _ => none

theorem ofName?_name (m : RouteMatch) : ofName? m.name = some m := by
  cases m <;> rfl

/-- A match by its name, or as an object whose one field has that name and holds nothing. -/
def ofJson? : Json → Option RouteMatch
  | .text name => ofName? name
  | .object [(name, .null)] => ofName? name
  | _ => none

end RouteMatch

structure Route where
  matched : String
  pattern : String
  handler : String
  kind : RouteMatch
deriving DecidableEq, Repr

namespace Route

def toJson (r : Route) : Json :=
  .object [("handler_name", .text r.handler), ("match_kind", .text r.kind.name),
    ("match_value", .text r.matched), ("pattern", .text r.pattern)]

def ofParts? : (matched pattern handler kind : Json) → Option Route
  | .text matched, .text pattern, .text handler, kind =>
    (RouteMatch.ofJson? kind).map fun kind => ⟨matched, pattern, handler, kind⟩
  | _, _, _, _ => none

/-- An object that has the four fields, others not counted, or a list of the four in order. -/
def ofJson? : Json → Option Route
  | .object fields =>
    match Json.field? "match_value" fields, Json.field? "pattern" fields,
      Json.field? "handler_name" fields, Json.field? "match_kind" fields with
    | some matched, some pattern, some handler, some kind => ofParts? matched pattern handler kind
    | _, _, _, _ => none
  | .list [matched, pattern, handler, kind] => ofParts? matched pattern handler kind
  | _ => none

end Route

inductive AttributeValue where
  | text (s : String)
  | route (r : Route)
  | json (j : Json)
deriving Repr, BEq, Inhabited

namespace AttributeValue

def text? : AttributeValue → Option String
  | .text s => some s
  | .json (.text s) => some s
  | _ => none

def route? : AttributeValue → Option Route
  | .route r => some r
  | _ => none

def display : AttributeValue → String
  | .text s => s
  | .route r => s!"{r.pattern} ({r.handler})"
  | .json j => j.render

def toJson : AttributeValue → Json
  | .text s => .text s
  | .route r => r.toJson
  | .json j => j

def ofJson (j : Json) : AttributeValue :=
  match j with
  | .text s => .text s
  | _ =>
    match Route.ofJson? j with
    | some r => .route r
    | none => .json j

end AttributeValue

end HttpRequest
