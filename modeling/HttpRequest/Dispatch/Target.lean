import HttpRequest.Request.Basic

/-! # Targets of a dispatch

A dispatch goes to a path within a context or to a handler by its name. A path is resolved against the
place of the request when it is relative, and made canonical; a path that climbs above the root of the
context has no target.
-/
namespace HttpRequest

inductive DispatchTarget where
  | path (uri : Uri) (contextPath pathInContext : String)
  | named (name : String)
deriving DecidableEq, Repr

namespace DispatchTarget

def forPath (contextPath target : String) : DispatchTarget :=
  let (place, query) := Path.splitQuery target
  .path (({} : Uri).withPathQuery (Path.join contextPath place) query) contextPath place

def uri? : DispatchTarget → Option Uri
  | .path uri _ _ => some uri
  | .named _ => none

def pathInContext? : DispatchTarget → Option String
  | .path _ _ inContext => some inContext
  | .named _ => none

def query? (t : DispatchTarget) : Option String :=
  t.uri?.bind (·.query)

def contextPath? : DispatchTarget → Option String
  | .path _ context _ => some context
  | .named _ => none

def name? : DispatchTarget → Option String
  | .path .. => none
  | .named name => some name

def text : DispatchTarget → String
  | .path _ _ inContext => inContext
  | .named name => name

def isPath : DispatchTarget → Bool
  | .path .. => true
  | .named _ => false

end DispatchTarget

namespace Request

/-- The directory that relative paths start from: that of handler path and path info together, or the
root when there is none. -/
def baseDirectory (r : Request) : String :=
  let place := Path.join (r.handlerPath.getD "") (r.pathInfo.getD "")
  let directory := Path.parentChars place.toList
  if 1 < (String.ofList directory.dropLast).utf8ByteSize then String.ofList directory else "/"

/-- A path with runs of slashes made one, and relative paths put behind the base directory. -/
def absolutePath (r : Request) (path : String) : String :=
  let path := Path.compact path
  if path.toList.head? == some '/' then path else Path.join r.baseDirectory path

/-- The target of a path, absolute within the context or relative to the place of the request. -/
def resolve (r : Request) (path : String) : Option DispatchTarget :=
  let (path, query) := Path.splitQuery (r.absolutePath path)
  (Path.canonical? path).map fun canonical =>
    DispatchTarget.forPath (r.contextPath.getD "")
      (query.elim canonical fun query => canonical ++ "?" ++ query)

end Request

end HttpRequest
