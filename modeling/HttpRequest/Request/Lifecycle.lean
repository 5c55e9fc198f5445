import HttpRequest.Request.Attributes
import HttpRequest.Request.Body

/-! # Sessions, logins and the end of a request

How a request uses sessions and logins, how it goes on after its handler has returned, and how it is
made ready for the next one: everything that concerned this request returns to its default, and only
the settings and the ends of the connection stay.
-/
namespace HttpRequest.Request

section Sessions

variable {E : Type} [SessionStores E]

/-- The valid current session; if there is none, a new one when asked for. -/
def session (create : Bool) (s : Request × E) :
    Except Failure (Option SessionKey) × (Request × E) :=
  let (r, e) := s
  match Sessions.getOrCreate create r.committed (r.sessions, e) with
  | (result, sessions, e) => (result, { r with sessions }, e)

def changeSessionId (s : Request × E) : Except Failure String × (Request × E) :=
  match session false s with
  | (.error f, s) => (.error f, s)
  | (.ok none, s) => (.error (.illegalState "No session"), s)
  | (.ok (some key), r, e) =>
    let (result, e) := r.sessions.renewId key e
    (result, r, e)

/-- The response is being committed; the first time, every session entered is persisted. -/
def commit (s : Request × E) : Request × E :=
  let (r, e) := s
  if r.committed then (r, e) else ({ r with committed := true }, r.sessions.commitAll e)

def complete (s : Request × E) : Request × E :=
  let (r, e) := s
  let (sessions, e) := Sessions.completeAll (r.sessions, e)
  ({ r with sessions }, e)

end Sessions

section Logins

variable {E : Type} [LoginServices E]

def alreadyAuthenticated (user : String) : Failure :=
  .authenticationFailed ("Already authenticated as " ++ user)

def refusedLogin (user : String) : Failure :=
  .authenticationFailed s!"Authentication failed for username '{user}'"

def login (name password : String) (s : Request × E) : Except Failure Unit × (Request × E) :=
  let (r, e) := s
  match r.authentication.user?, r.loginService with
  | some user, _ => (.error (alreadyAuthenticated user.name), r, e)
  | none, none => (.error (.authenticationFailed "No login service"), r, e)
  | none, some service =>
    match LoginServices.login service name password e with
    | (.error f, e) => (.error f, r, e)
    | (.ok none, e) => (.error (refusedLogin name), r, e)
    | (.ok (some user), e) => (.ok (), { r with authentication := .user user }, e)

def logout (s : Request × E) : Request × E :=
  let (r, e) := s
  let e := match r.authentication.user?, r.loginService with
    | some user, some service => LoginServices.logout service user e
    | _, _ => e
  ({ r with authentication := r.authentication.loggedOut }, e)

end Logins

section Async

variable (r : Request)

def withAsyncSupport (supported : Bool) (source : Option String) : Request :=
  { r with asyncSupported := supported, asyncForbiddenBy := if supported then none else source }

def startAsync : Except Failure Request :=
  if !r.asyncSupported then
    .error (.illegalState ("!asyncSupported: " ++ r.asyncForbiddenBy.getD "unknown"))
  else if r.asyncStarted then .error (.illegalState "async already started")
  else .ok { r with asyncStarted := true }

end Async

section Recycling

variable {E : Type} [Body.ExternalSources E]

/-- Everything at its default but the settings and the ends of the connection. -/
def atRest (r : Request) : Request :=
  { settings := r.settings, remote := r.remote, localEnd := r.localEnd, body := r.body.recycle }

def recycle (s : Request × E) : Request × E :=
  let (r, e) := s
  let (body, e) := if r.body.mode = .reader then (Body.Input.readAll (r.body, e)).2 else (r.body, e)
  ({ r with body }.atRest, e)

end Recycling

end HttpRequest.Request
