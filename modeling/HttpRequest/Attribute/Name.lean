/-! # Reserved attribute names

Names under `dispatch.forward.` and `dispatch.include.` tell where a request was before a nested
dispatch. Each of the two spaces has six names of its own, one for each field recorded.
-/
namespace HttpRequest

inductive DispatchField where
  | requestUri
  | contextPath
  | handlerPath
  | pathInfo
  | queryString
  | mapping
deriving DecidableEq, Repr

namespace DispatchField

def all : List DispatchField :=
  [.requestUri, .contextPath, .handlerPath, .pathInfo, .queryString, .mapping]

theorem mem_all (f : DispatchField) : f ∈ all := by
  cases f <;> decide

def suffix : DispatchField → String
  | .requestUri => "request_uri"
  | .contextPath => "context_path"
  | .handlerPath => "handler_path"
  | .pathInfo => "path_info"
  | .queryString => "query_string"
  | .mapping => "mapping"

def ofSuffix? (suffix : String) : Option DispatchField :=
  all.find? fun f => f.suffix == suffix

theorem ofSuffix?_suffix (f : DispatchField) : ofSuffix? f.suffix = some f := by
  cases f <;> rfl

end DispatchField

inductive Space where
  | forward
  | include
deriving DecidableEq, Repr

namespace Space

def root : Space → String
  | .forward => "dispatch.forward."
  | .include => "dispatch.include."

def other : Space → Space
  | .forward => .include
  | .include => .forward

def holds (s : Space) (name : String) : Bool :=
  s.root.toList.isPrefixOf name.toList

def key (s : Space) (f : DispatchField) : String :=
  s.root ++ f.suffix

def field? (s : Space) (name : String) : Option DispatchField :=
  if s.holds name then
    DispatchField.ofSuffix? (String.ofList (name.toList.drop s.root.length))
  else none

theorem holds_key (s : Space) (f : DispatchField) : s.holds (s.key f) = true := by
  simp [holds, key]

theorem holds_other {s : Space} {name : String} (held : s.holds name = true) : s.other.holds name = false := by
  obtain ⟨rest,split⟩ := List.isPrefixOf_iff_prefix.mp held
  have apart : s.other.root.toList.isPrefixOf (s.root.toList ++ rest) = false := by
    cases s <;> rfl
  rwa [split] at apart

theorem field?_key (s : Space) (f : DispatchField) : s.field? (s.key f) = some f := by
  have behind : (s.key f).toList.drop s.root.length = f.suffix.toList := by
    rw [key, String.toList_append, ← String.length_toList, List.drop_left]
  rw [field?, if_pos (s.holds_key f), behind, String.ofList_toList]
  exact DispatchField.ofSuffix?_suffix f

theorem field?_of_not_holds {s : Space} {name : String} (outside : s.holds name = false) :
    s.field? name = none := by
  simp [field?, outside]

theorem eq_key_of_field? {space : Space} {name : String} {f : DispatchField}
    (named : space.field? name = some f) : name = space.key f := by
  unfold field? at named
  split at named
  next held =>
    obtain ⟨rest,split⟩ := List.isPrefixOf_iff_prefix.mp held
    have suffix : f.suffix = String.ofList (name.toList.drop space.root.length) := by
      simpa using List.find?_some named
    have behind : name.toList.drop space.root.length = rest := by
      rw [← split, ← String.length_toList, List.drop_left]
    rw [behind] at suffix
    rw [← String.toList_inj, key, String.toList_append, suffix, String.toList_ofList, split]
  · cases named

end Space

def isReserved (name : String) : Bool :=
  Space.forward.holds name || Space.include.holds name

theorem isReserved_of_holds {s : Space} {name : String} (held : s.holds name = true) : isReserved name = true := by
  cases s <;> simp [isReserved, held]

theorem not_holds_of_not_isReserved {name : String} (free : isReserved name = false) (s : Space) :
    s.holds name = false := by
  cases held : s.holds name with
  | false => rfl
  | true => simp [isReserved_of_holds held] at free

/-- The attribute that also sets the encoding of the query. -/
def queryEncodingName : String := "request.query_encoding"

end HttpRequest
