import HttpRequest.Attribute.Layers
import HttpRequest.Body.Input
import HttpRequest.Endpoint
import HttpRequest.Header.Cookie
import HttpRequest.Header.Date
import HttpRequest.Header.Locale
import HttpRequest.Identity
import HttpRequest.Param.Cache
import HttpRequest.RequestId
import HttpRequest.Session
import HttpRequest.Settings
import HttpRequest.Uri

/-! # Requests

A request belongs to a connection and is used again for every request sent on it. This module holds
its parts and what can be read off them; every part that concerns one request only has a default, and
a request at rest has all of them at their defaults.
-/
namespace HttpRequest

inductive DispatchKind where
  | request
  | forward
  | include
  | error
  | async
deriving DecidableEq, Repr, Inhabited

namespace DispatchKind

def all : List DispatchKind :=
  [.request, .forward, .include, .error, .async]

def name : DispatchKind → String
  | .request => "REQUEST"
  | .forward => "FORWARD"
  | .include => "INCLUDE"
  | .error => "ERROR"
  | .async => "ASYNC"

end DispatchKind

inductive Version where
  | http09
  | http10
  | http11
  | http2
  | http3
deriving DecidableEq, Repr, Inhabited

namespace Version

def text : Version → String
  | .http09 => "HTTP/0.9"
  | .http10 => "HTTP/1.0"
  | .http11 => "HTTP/1.1"
  | .http2 => "HTTP/2.0"
  | .http3 => "HTTP/3.0"

def ofText? : String → Option Version
  | "HTTP/0.9" => some .http09
  | "HTTP/1.0" => some .http10
  | "HTTP/1.1" => some .http11
  | "HTTP/2.0" => some .http2
  | "HTTP/3.0" => some .http3
  | _ => none

theorem ofText?_text (v : Version) : ofText? v.text = some v := by
  cases v <;> rfl

/-- Whether a client of this version may wait to be told to go on. -/
def mayExpectContinue : Version → Bool
  | .http09 | .http10 => false
  | .http11 | .http2 | .http3 => true

end Version

structure RequestedSession where
  id : String
  fromCookie : Bool
deriving DecidableEq, Repr

structure ObserverKey where
  number : Nat
deriving DecidableEq, Repr, Inhabited

structure Request where
  settings : Settings := {}
  remote : Option Endpoint := none
  localEnd : Option Endpoint := none
  /-- The identifier that the client sent. Without one the request has an identifier of its own. -/
  clientId : Option RequestId := none
  method : Option String := none
  version : Version := .http11
  headers : Headers := {}
  uri : Option Uri := none
  /-- The target as it arrived, which no dispatch changes. -/
  arrivedUri : Option String := none
  contextPath : Option String := none
  handlerPath : Option String := none
  pathInfo : Option String := none
  mapping : Option Route := none
  kind : DispatchKind := .request
  attributes : Attributes := {}
  body : Body.Input
  params : ParamCache := {}
  queryCharset : Option Charset := none
  encodingOverride : Option String := none
  contentTypeOverride : Option String := none
  sessions : Sessions := {}
  requestedSession : Option RequestedSession := none
  authentication : Authentication := .notChecked
  loginService : Option LoginKey := none
  observers : List ObserverKey := []
  asyncSupported : Bool := true
  asyncForbiddenBy : Option String := none
  asyncStarted : Bool := false
  handled : Bool := false
  secure : Bool := false
  /-- The address of the client as reported for this request only. -/
  remoteOverride : Option Endpoint := none
  /-- Whether a request line has come, and with it a time. -/
  received : Bool := false
  committed : Bool := false

namespace Request

def new (settings : Settings) : Request :=
  { settings, body := Body.Input.new settings.readTimeout }

instance : Inhabited Request := ⟨new {}⟩

section Headers

variable (r : Request)

def header? (name : String) : Option String :=
  r.headers.text? name

def badHeader (name : String) : Failure :=
  .badRequest s!"Bad {name} header"

def intHeader (name : String) : Except Failure (Option Int) :=
  match r.header? name with
  | none => .ok none
  | some value =>
    match Number.signed64? (trim value.toList) with
    | some n => .ok (some n)
    | none => .error (badHeader name)

def dateHeader (name : String) : Except Failure (Option Nat) :=
  match r.header? name with
  | none => .ok none
  | some value =>
    match Date.parse? value with
    | some seconds => .ok (some seconds)
    | none => .error (badHeader name)

def cookies : List Cookie :=
  Cookie.ofHeaders r.headers

def cookie? (name : String) : Option String :=
  (r.cookies.find? (·.name == name)).map (·.value)

def locales : List Locale :=
  Locale.ofHeaders r.headers

/-- The content type set for the request, else that of the header. -/
def contentType? : Option String :=
  r.contentTypeOverride.or (r.header? "content-type")

def contentLength? : Option Nat :=
  (r.header? "content-length").bind fun v => Number.unsigned? 10 Number.max64 (trim v.toList)

/-- The encoding set for the request, else that of the content type. -/
def encoding? : Option String :=
  r.encodingOverride.or (r.contentType?.bind ContentType.charset?)

def queryEncoding : Charset :=
  r.queryCharset.getD .utf8

end Headers

section Location

variable (r : Request)

def requestUri? : Option String :=
  r.uri.map (·.path)

def queryString? : Option String :=
  r.uri.bind (·.query)

def defaultScheme : String :=
  if r.secure then "https" else "http"

def scheme : String :=
  (r.uri.bind (·.scheme)).getD r.defaultScheme

def serverName? : Option String :=
  r.uri.bind (·.host)

/-- The port of the current address, else the usual one of its scheme. -/
def serverPort : Nat :=
  (r.uri.bind (·.port)).getD (if r.scheme == "https" then 443 else 80)

def hasUsualPort : Bool :=
  (r.scheme == "http" && r.serverPort == 80) || (r.scheme == "https" && r.serverPort == 443)

def rootUrl? : Option String :=
  r.serverName?.map fun host =>
    let origin := r.scheme ++ "://" ++ host
    if r.hasUsualPort then origin else origin ++ ":" ++ toString r.serverPort

def requestUrl? : Option String :=
  r.rootUrl?.map (· ++ r.requestUri?.getD "")

def remoteEnd? : Option Endpoint :=
  r.remoteOverride.or r.remote

def portOf (e : Option Endpoint) : Nat :=
  e.elim 0 (·.port)

end Location

section Sessions

variable (r : Request)

def withRequestedSession (id : Option String) (fromCookie : Bool) : Request :=
  { r with requestedSession := id.map fun id => ⟨id, fromCookie⟩ }

/-- The value of a parameter of the path, up to the end of its segment. -/
def pathParameter? (name : String) : Option String :=
  r.requestUri?.bind fun path =>
    (afterMarker? (";" ++ name ++ "=").toList path.toList).bind fun rest =>
      let value := rest.takeWhile fun c => !(c == ';' || c == '/' || c == '?' || c == '#')
      if value.isEmpty then none else some (String.ofList value)

/-- Looks for the session id in a cookie, then in a parameter of the path. -/
def findRequestedSession (cookieName parameterName : String) : Request :=
  match (r.cookie? cookieName).filter (· ≠ "") with
  | some id => r.withRequestedSession (some id) true
  | none => r.withRequestedSession (r.pathParameter? parameterName) false

/-- Whether the id asked for is that of the current session and the session is valid. -/
def requestedSessionIsValid {E : Type} [SessionStores E] (e : E) : Bool :=
  match r.requestedSession, r.sessions.current with
  | some requested, some session =>
    SessionStores.sessionIsValid session e && SessionStores.sessionId session e == requested.id
  | _, _ => false

end Sessions

end Request

end HttpRequest
