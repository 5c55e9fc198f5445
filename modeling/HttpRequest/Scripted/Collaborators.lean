import HttpRequest.Request.Attributes
import HttpRequest.Scripted.Basic

/-! # Collaborators of a scripted environment

How a scripted environment plays the sources, session managers, login services, observers and the
response, and what it notes of each call.
-/
namespace HttpRequest.Scripted.Environment

variable {κ : Type}

def deliveredSize (deliveries : List Body.Delivery) : Nat :=
  deliveries.foldl (fun size d =>
    match d with
    | .bytes chunk => size + chunk.length
    | _ => size) 0

instance : Body.ExternalSources (Environment κ) where
  produce key e :=
    ((e.script key).steps.headD [], { e.say "produce" with
      scripts := e.scripts.modify key.number fun s => { s with steps := s.steps.tail } })
  wait key milliseconds e :=
    let e := e.say ("wait " ++ toString milliseconds)
    match (e.script key).waits with
    | arrival :: rest =>
      (arrival, { e with scripts := e.scripts.modify key.number fun s => { s with waits := rest } })
    | [] => (if (e.script key).steps.isEmpty then .timedOut else .readable, e)
  watch key e :=
    ((e.script key).signalsAtOnce, { e.say "interest" with watching := key :: e.watching })
  sendContinue key e := ((e.script key).continueFailure.elim (.ok ()) .error, e.say "continue")
  patience key e := (e.script key).waits.length + (e.script key).steps.length + 1
  supply key e := deliveredSize (e.script key).steps.flatten

instance : SessionStores (Environment κ) where
  sessionId key e := (e.session key).id
  sessionIsValid key e := (e.session key).valid
  sessionOwner key e := (e.session key).owner
  managerName key e := (e.manager key).name
  create key e :=
    let m := e.manager key
    match m.createFailure with
    | some f => (.error f, e)
    | none =>
      let id := m.name ++ "-s" ++ toString m.created
      (.ok ⟨e.sessions.size⟩,
        { e with
          sessions := e.sessions.push ⟨id, id, m.owner, true⟩
          managers := e.managers.modify key.number fun m => { m with created := m.created + 1 } })
  isValid key session e :=
    let m := e.manager key
    let s := e.session session
    if m.full then (m.valid.getD s.valid, e.say (m.name ++ " is_valid " ++ s.id)) else (s.valid, e)
  complete key session e := e.say ((e.manager key).name ++ " complete " ++ (e.session session).id)
  commit key session e := e.say ((e.manager key).name ++ " commit " ++ (e.session session).id)
  renew key session e :=
    let m := e.manager key
    if m.full then (m.renewFailure.elim (.ok ((e.session session).id ++ "-renewed")) .error, e)
    else (.error (cannotRenew m.name), e)

instance : LoginServices (Environment κ) where
  login key name password e :=
    let service := e.service key
    let user := service.users.find? fun (user, secret) => user.name == name && secret == password
    (service.failure.elim (.ok (user.map (·.1))) .error, e.say ("login " ++ name))
  logout key user e := if (e.service key).full then e.say ("logout " ++ user.name) else e

def eventText : AttributeEvent → String
  | .added name value => "added " ++ name ++ "=" ++ value.display
  | .replaced name old => "replaced " ++ name ++ "=" ++ old.display
  | .removed name old => "removed " ++ name ++ "=" ++ old.display

instance : AttributeObservers (Environment κ) where
  notify key event e :=
    match e.observers[key.number]? with
    | some (some name) => e.say (name ++ " " ++ eventText event)
    | _ => e

def close (e : Environment κ) : Except Failure Unit × Environment κ :=
  match e.response.closeFailure with
  | some f => (.error f, e)
  | none => (.ok (), { e with response := { e.response with closed := true } })

instance : ResponseControl (Environment κ) where
  markIncluding e := e.say "res including"
  markIncluded e := e.say "res included"
  resetForForward e :=
    if e.response.committed then (.error (.illegalState "Committed"), e)
    else (.ok (), e.say "res reset")
  isOutputClosed e := e.response.closed
  outputMode e := e.response.mode
  closeOutput e := close (e.say "res close_output")
  closeWriter e := close (e.say "res close_writer")

end HttpRequest.Scripted.Environment
