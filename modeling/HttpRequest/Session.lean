import HttpRequest.Failure

/-! # Sessions of a request

Sessions are stored outside. A request keeps the sessions it entered, each with the manager it was
first entered with, the current session, and the manager that can create one. When the response is
committed every manager persists the sessions entered so far, and when the request has completed every
manager is told of the end of each session once.
-/
namespace HttpRequest

/-- Refers to a session; two sessions are the same when their keys are. -/
structure SessionKey where
  number : Nat
deriving DecidableEq, Repr, Inhabited

structure ManagerKey where
  number : Nat
deriving DecidableEq, Repr, Inhabited

class SessionStores (E : Type) where
  sessionId : SessionKey → E → String
  sessionIsValid : SessionKey → E → Bool
  sessionOwner : SessionKey → E → String
  managerName : ManagerKey → E → String
  create : ManagerKey → E → Except Failure SessionKey × E
  isValid : ManagerKey → SessionKey → E → Bool × E
  /-- The request that used the session has completed. -/
  complete : ManagerKey → SessionKey → E → E
  /-- The response is about to be committed. -/
  commit : ManagerKey → SessionKey → E → E
  renew : ManagerKey → SessionKey → E → Except Failure String × E

def cannotRenew (managerName : String) : Failure :=
  .illegalState s!"session manager '{managerName}' cannot renew session ids"

/-- A session that the request entered, and the manager it was entered with. -/
structure EnteredSession where
  session : SessionKey
  manager : ManagerKey
deriving DecidableEq, Repr

structure Sessions where
  entered : List EnteredSession := []
  current : Option SessionKey := none
  manager : Option ManagerKey := none
deriving DecidableEq, Repr, Inhabited

namespace Sessions

def hasEntered (s : Sessions) (session : SessionKey) : Bool :=
  s.entered.any fun entry => entry.session == session

/-- Enters a session; to enter it again changes nothing. -/
def enter (s : Sessions) (session : SessionKey) (manager : ManagerKey) : Sessions :=
  if s.hasEntered session then s
  else { s with entered := s.entered ++ [⟨session, manager⟩] }

def noManager : Failure :=
  .illegalState "No session manager"

section Operations

variable {E : Type} [SessionStores E]

/-- Whether the current session is valid: its own manager decides if it is the one in use, else the
session itself. -/
def currentIsValid (manager : Option ManagerKey) (session : SessionKey) (e : E) : Bool × E :=
  match manager with
  | some m =>
    if SessionStores.managerName m e == SessionStores.sessionOwner session e then
      SessionStores.isValid m session e
    else (SessionStores.sessionIsValid session e, e)
  | none => (SessionStores.sessionIsValid session e, e)

/-- The current session if it is valid; one that is not is forgotten. -/
def validCurrent (s : Sessions × E) : Option SessionKey × (Sessions × E) :=
  let (sessions, e) := s
  match sessions.current with
  | none => (none, sessions, e)
  | some session =>
    let (valid, e) := currentIsValid sessions.manager session e
    if valid then (some session, sessions, e)
    else (none, { sessions with current := none }, e)

/-- A new session of the manager in use, entered and current. -/
def createCurrent (s : Sessions × E) : Except Failure SessionKey × (Sessions × E) :=
  let (sessions, e) := s
  match sessions.manager with
  | none => (.error noManager, sessions, e)
  | some manager =>
    match SessionStores.create manager e with
    | (.error f, e) => (.error f, sessions, e)
    | (.ok session, e) =>
      (.ok session, { sessions.enter session manager with current := some session }, e)

/-- The valid current session; if there is none, a new one when asked for, which cannot be had once
the response is committed. -/
def getOrCreate (create committed : Bool) (s : Sessions × E) :
    Except Failure (Option SessionKey) × (Sessions × E) :=
  match validCurrent s with
  | (some session, s) => (.ok (some session), s)
  | (none, s) =>
    if !create then (.ok none, s)
    else if committed then (.error (.illegalState "Response is committed"), s)
    else
      match createCurrent s with
      | (.ok session, s) => (.ok (some session), s)
      | (.error f, s) => (.error f, s)

def sessionFor (s : Sessions) (managerName : String) (e : E) : Option SessionKey :=
  (s.entered.find? fun entry => SessionStores.managerName entry.manager e == managerName).map
    (·.session)

/-- The manager that renews the id of a session: the one it was entered with, else the one in use. -/
def renewer? (s : Sessions) (session : SessionKey) : Option ManagerKey :=
  ((s.entered.find? fun entry => entry.session == session).map (·.manager)).or s.manager

def renewId (s : Sessions) (session : SessionKey) (e : E) : Except Failure String × E :=
  match s.renewer? session with
  | some manager => SessionStores.renew manager session e
  | none => (.error noManager, e)

def commitAll (s : Sessions) (e : E) : E :=
  s.entered.foldl (fun e entry => SessionStores.commit entry.manager entry.session e) e

def completeAll (s : Sessions × E) : Sessions × E :=
  ({ s.1 with entered := [] },
    s.1.entered.foldl (fun e entry => SessionStores.complete entry.manager entry.session e) s.2)

end Operations

end Sessions

end HttpRequest
