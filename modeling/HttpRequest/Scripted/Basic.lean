import HttpRequest.Body.Source
import HttpRequest.Dispatch.Response
import HttpRequest.Identity
import HttpRequest.Json
import HttpRequest.Session

/-! # Scripted environments

An environment in which every collaborator follows a script: sources deliver what was prepared, session
managers and login services answer from tables, and the response only keeps its state. What the
collaborators are asked to do is noted in a log, in order. A scripted environment is complete, so with
it the whole library runs without a network.
-/
namespace HttpRequest.Scripted

/-- A source outside: what each request for content delivers, and how each wait ends. -/
structure Script where
  name : String
  steps : List (List Body.Delivery)
  /-- How waits end. Once used up, they end with content as long as there are steps. -/
  waits : List Body.Arrival
  signalsAtOnce : Bool
  continueFailure : Option Failure
deriving Inhabited

/-- A session manager. One that is not full neither decides on validity nor renews ids. -/
structure Manager where
  name : String
  full : Bool
  createFailure : Option Failure
  owner : String
  /-- What a full manager says of validity; without it the session decides. -/
  valid : Option Bool
  renewFailure : Option Failure
  created : Nat := 0
deriving Inhabited

structure StoredSession where
  key : String
  id : String
  owner : String
  valid : Bool
deriving Inhabited

/-- A login service with its users and their passwords. One that is not full ignores logouts. -/
structure Service where
  full : Bool
  users : List (User × String)
  failure : Option Failure
deriving Inhabited

structure Response where
  committed : Bool := false
  closed : Bool := false
  mode : OutputMode := .none
  closeFailure : Option Failure := none
deriving Inhabited

/-- The collaborators, the log, and whatever else the user of the environment keeps in it. -/
structure Environment (κ : Type) where
  log : Array Json := #[]
  scripts : Array Script := #[]
  watching : List Body.SourceKey := []
  managers : Array Manager := #[]
  sessions : Array StoredSession := #[]
  services : Array Service := #[]
  /-- Names of observers; one without a name ignores events. -/
  observers : Array (Option String) := #[]
  response : Response := {}
  kept : κ
deriving Inhabited

namespace Environment

variable {κ : Type} (e : Environment κ)

def note (entry : Json) : Environment κ :=
  { e with log := e.log.push entry }

def say (entry : String) : Environment κ :=
  e.note (.text entry)

def takeLog : List Json × Environment κ :=
  (e.log.toList, { e with log := #[] })

def script (key : Body.SourceKey) : Script :=
  (e.scripts[key.number]?).getD default

def manager (key : ManagerKey) : Manager :=
  (e.managers[key.number]?).getD default

def session (key : SessionKey) : StoredSession :=
  (e.sessions[key.number]?).getD default

def service (key : LoginKey) : Service :=
  (e.services[key.number]?).getD default

def watcherNamed? (name : String) : Option Body.SourceKey :=
  e.watching.find? fun key => (e.script key).name == name

def managerNamed? (name : String) : Option ManagerKey :=
  ((List.range e.managers.size).reverse.find? fun i => (e.manager ⟨i⟩).name == name).map (⟨·⟩)

def sessionStored? (key : String) : Option SessionKey :=
  ((List.range e.sessions.size).reverse.find? fun i => (e.session ⟨i⟩).key == key).map (⟨·⟩)

end Environment

end HttpRequest.Scripted
