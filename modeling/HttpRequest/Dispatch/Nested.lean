import HttpRequest.Dispatch.Response
import HttpRequest.Dispatch.Target
import HttpRequest.Request.Attributes
import HttpRequest.Request.Parameters

/-! # Nested dispatches

During a dispatch another handler works on the same request. An include leaves the address alone and
adds the parameters of its target behind those of the request; a forward moves the request to the
target and puts the target's parameters in front; an error dispatch is a forward that goes on when the
parameters cannot be merged. Before anything is changed a snapshot is taken, and it is put back however
the dispatch ends: with success, with a failure, or cut short.
-/
namespace HttpRequest

/-- What a handler does when it is called at a place: it changes the request and the environment, and
ends in one of three ways. -/
abbrev Handler (E : Type) := String → Request × E → Outcome Unit × (Request × E)

structure IncludeSnapshot where
  kind : DispatchKind
  query : Option Params

structure ForwardSnapshot where
  kind : DispatchKind
  query : Option Params
  uri : Option Uri
  contextPath : Option String
  handlerPath : Option String
  pathInfo : Option String
  mapping : Option Route

namespace Request

def popIf (r : Request) (layered : Bool) : Request :=
  if layered then { r with attributes := r.attributes.pop.2 } else r

def includeSnapshot (r : Request) : IncludeSnapshot :=
  { kind := r.kind, query := r.params.query }

def endInclude (r : Request) (saved : IncludeSnapshot) (layered : Bool) : Request :=
  { r.popIf layered with kind := saved.kind, params := r.params.restoreQuery saved.query }

def forwardSnapshot (r : Request) : ForwardSnapshot :=
  { kind := r.kind, query := r.params.query, uri := r.uri, contextPath := r.contextPath,
    handlerPath := r.handlerPath, pathInfo := r.pathInfo, mapping := r.mapping }

def endForward (r : Request) (saved : ForwardSnapshot) (layered : Bool) : Request :=
  { r.popIf layered with
    kind := saved.kind, params := r.params.restoreQuery saved.query, uri := saved.uri,
    contextPath := saved.contextPath, handlerPath := saved.handlerPath,
    pathInfo := saved.pathInfo, mapping := saved.mapping }

/-- The query parameters before the dispatch: those computed already, else those of the query. -/
def previousParams (r : Request) (query : Option String) : Except Failure Params :=
  match r.params.query with
  | some p => .ok p
  | none => decodeQuery query r.queryEncoding

/-- The query parameters of the target, whose query is always UTF-8, merged with the previous ones. -/
def mergeParams (r : Request) (previousQuery targetQuery : Option String)
    (merge : (target previous : Params) → Params) : Except Failure Params :=
  match decodeQuery targetQuery .utf8 with
  | .error f => .error f
  | .ok target =>
    match r.previousParams previousQuery with
    | .error f => .error f
    | .ok previous => .ok (merge target previous)

def withQueryParams (r : Request) (p : Params) : Request :=
  { r with params := { r.params with query := some p, merged := none } }

def includeRecord (uri : Uri) (contextPath pathInContext : String) : DispatchRecord where
  requestUri := some (.text uri.path)
  contextPath := some (.text contextPath)
  pathInfo := some (.text pathInContext)
  queryString := uri.query.map .text

/-- The request as the handler of an include sees it, or as it is left when the parameters cannot be
merged. -/
def beginInclude (r : Request) (t : DispatchTarget) : Except Failure Unit × Request :=
  let previousQuery := r.queryString?
  let r := { r with kind := .include }
  match t with
  | .named _ => (.ok (), r)
  | .path uri context path =>
    let r := { r with attributes := r.attributes.push .include (includeRecord uri context path) }
    if uri.query.isNone then (.ok (), r)
    else
      match r.mergeParams previousQuery uri.query fun target previous =>
        Params.mergeInclude previous target with
      | .ok p => (.ok (), r.withQueryParams p)
      | .error f => (.error f, r)

/-- What a forward tells about where the request was: at the first one, the place of the request; at
later ones, what the first one told. -/
def forwardRecord (r : Request) : DispatchRecord :=
  if (r.attribute? (Space.forward.key .requestUri)).isSome then r.attributes.record .forward
  else
    { requestUri := r.requestUri?.map .text
      contextPath := r.contextPath.map .text
      handlerPath := r.handlerPath.map .text
      pathInfo := r.pathInfo.map .text
      queryString := r.queryString?.map .text
      mapping := r.mapping.map .route }

def moveTo (r : Request) (uri : Uri) (contextPath pathInContext : String) : Request :=
  { r with
    uri := some ((r.uri.getD {}).withPathQuery uri.path uri.query)
    contextPath := some contextPath
    handlerPath := none
    pathInfo := some pathInContext
    mapping := none }

/-- The request moved to a target, with parameters merged. A target without a query keeps the query
of the request. -/
def moveAndMerge (r : Request) (uri : Uri) (contextPath pathInContext : String) :
    Except Failure Request × Request :=
  let previousQuery := r.queryString?
  let r := r.moveTo uri contextPath pathInContext
  if uri.query.isNone && previousQuery.isNone then (.ok r, r)
  else
    match r.mergeParams previousQuery uri.query Params.mergeForward with
    | .error f => (.error f, r)
    | .ok p =>
      let merged := r.withQueryParams p
      if uri.query.isNone then
        (.ok { merged with uri := some ((merged.uri.getD {}).withQuery previousQuery) }, r)
      else (.ok merged, r)

/-- The request as the handler of a forward or of an error dispatch sees it, or as it is left when the
parameters cannot be merged, which an error dispatch does not mind. -/
def beginForward (r : Request) (kind : DispatchKind) (t : DispatchTarget) :
    Except Failure Unit × Request :=
  let r := { r with kind }
  match t with
  | .named _ => (.ok (), r)
  | .path uri context path =>
    let record := r.forwardRecord
    let push (r : Request) := { r with attributes := r.attributes.push .forward record }
    match r.moveAndMerge uri context path with
    | (.ok r, _) => (.ok (), push r)
    | (.error f, r) => if kind = .error then (.ok (), push r) else (.error f, r)

end Request

namespace DispatchTarget

variable {E : Type} [ResponseControl E]

def runInclude (t : DispatchTarget) (handler : Handler E) (s : Request × E) :
    Outcome Unit × (Request × E) :=
  let saved := s.1.includeSnapshot
  let (begun, r) := s.1.beginInclude t
  let s := (r, ResponseControl.markIncluding s.2)
  let (outcome, r, e) := match begun with
    | .ok _ => handler t.text s
    | .error f => (.failed f, s)
  (outcome, r.endInclude saved t.isPath, ResponseControl.markIncluded e)

/-- Closes the output after a handler that a path led to, unless the handler failed, the request goes
on, or the output is closed. -/
def closeAfter (t : DispatchTarget) (outcome : Outcome Unit) (r : Request) (e : E) :
    Outcome Unit × E :=
  if t.isPath && outcome.isOk && !r.asyncStarted && !ResponseControl.isOutputClosed e then
    let (closed, e) := ResponseControl.close e
    (.ofExcept closed, e)
  else (outcome, e)

def runForwardAs (kind : DispatchKind) (t : DispatchTarget) (handler : Handler E) (s : Request × E) :
    Outcome Unit × (Request × E) :=
  let (r, e) := s
  match ResponseControl.resetForForward e with
  | (.error f, e) => (.failed f, r, e)
  | (.ok _, e) =>
    let saved := r.forwardSnapshot
    match r.beginForward kind t with
    | (.error f, r) => (.failed f, r.endForward saved false, e)
    | (.ok _, r) =>
      let (outcome, r, e) := handler t.text (r, e)
      let (outcome, e) := t.closeAfter outcome r e
      (outcome, r.endForward saved t.isPath, e)

def runForward (t : DispatchTarget) (handler : Handler E) (s : Request × E) :
    Outcome Unit × (Request × E) :=
  t.runForwardAs .forward handler s

def runError (t : DispatchTarget) (handler : Handler E) (s : Request × E) :
    Outcome Unit × (Request × E) :=
  t.runForwardAs .error handler s

end DispatchTarget

end HttpRequest
