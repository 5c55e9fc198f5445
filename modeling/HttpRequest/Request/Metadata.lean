import HttpRequest.Request.Basic

/-! # The request line

Attaching a request line and headers reads the target, completes its scheme and host, and computes the
path by which the request is handled: escapes undone, then `.` and `..` resolved. A target that climbs
above the root is refused. Nothing of the request changes when the target is refused. The targets `*`
and those of the method CONNECT are kept as they are.
-/
namespace HttpRequest.Request

def isVerbatim (method target : String) : Bool :=
  method == "CONNECT" || target == "*"

def targetUri [UriGrammar] (method target : String) : Except Failure Uri :=
  if isVerbatim method target then .ok (Uri.ofPathQuery target) else Uri.parse target

/-- A scheme for an address that has none. -/
def completeScheme (r : Request) (u : Uri) : Uri :=
  if u.scheme.isNone then u.withScheme r.defaultScheme else u

/-- Host and port from the host header for an address that has none. -/
def completeHost [UriGrammar] (headers : Headers) (u : Uri) : Except Failure Uri :=
  match u.host, headers.text? "host" with
  | none, some host => u.withAuthority host
  | _, _ => .ok u

/-- The path by which a request is handled: decoded, then canonical. -/
def safePath (u : Uri) : Except Failure String :=
  if u.path.isEmpty then .error badUri
  else
    match u.decodedPath with
    | .error f => .error f
    | .ok decoded =>
      match Path.canonical? decoded with
      | some path => .ok path
      | none => .error badUri

def targetPaths (method target : String) (u : Uri) : Except Failure (String × String) :=
  if isVerbatim method target then .ok (target, target)
  else (safePath u).map fun path => (u.pathQuery, path)

def withMetadata [UriGrammar] (r : Request) (method target : String) (version : Version) (headers : Headers) :
    Except Failure Request := do
  let target_ ← targetUri method target
  let uri ← completeHost headers (completeScheme r target_)
  let (arrived, path) ← targetPaths method target uri
  return { r with
    clientId := RequestId.ofHeaders? headers
    received := true
    method := some method
    version
    headers
    uri := some uri
    arrivedUri := some arrived
    pathInfo := some path }

def expectsContinue (r : Request) : Bool :=
  r.version.mayExpectContinue && (r.header? "expect").any (sameIgnoringCase · "100-continue")

def withSource (r : Request) (source : Body.Source) : Request :=
  { r with
    body := { r.body with timeout := r.settings.readTimeout }.attach source r.expectsContinue }

end HttpRequest.Request
