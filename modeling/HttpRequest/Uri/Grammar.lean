import HttpRequest.Uri
import HttpRequest.Uri.Target

/-! # A grammar of addresses

The parts of a target are found by their signs, and host and port of an authority likewise.
-/
namespace HttpRequest.CommonGrammar

/-- The address that a target falls into. Only an authority that is not empty names a host. -/
def ofParts (parts : Target.Parts) : Uri :=
  let named := !parts.authority.isEmpty
  { scheme := parts.scheme.map String.ofList
    host := if named then some (String.ofList (Authority.host parts.authority)) else none
    port := if named then Authority.port? parts.authority else none
    path := String.ofList parts.path
    query := parts.query.map String.ofList }

scoped instance common : UriGrammar where
  target? target := (Target.read? target.toList).map ofParts
  authority? authority := (Authority.whole? authority.toList).map fun cs =>
    (String.ofList (Authority.host cs), Authority.port? cs)

end HttpRequest.CommonGrammar
