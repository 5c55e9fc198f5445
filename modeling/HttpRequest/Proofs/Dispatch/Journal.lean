import HttpRequest.Proofs.Body.Usage
import HttpRequest.Proofs.Dispatch.Nest
import HttpRequest.Proofs.Request.Moves

/-! # Journals

Beside an environment a journal is kept of what its session managers and its response are asked to do.
The collaborators do not see it, and nothing else is written in it but what a handler writes at will. A
dispatch asks the response alone, before and after its handler.
-/
namespace HttpRequest

open Body (Observed)

/-- What a session manager is asked to do, and what comes of it. -/
inductive SessionCall where
  | create (manager : ManagerKey) (made : Option SessionKey)
  | commit (entry : EnteredSession)
  | complete (entry : EnteredSession)
deriving DecidableEq, Repr

inductive ResponseCall where
  | including
  | included
  | reset (done : Bool)
  | closeOutput (done : Bool)
  | closeWriter (done : Bool)
deriving DecidableEq, Repr

/-- How a journal notes the calls. -/
class Journal (L : Type) where
  session : SessionCall → L → L
  response : ResponseCall → L → L

section Instances

variable {E L : Type}

def noted {α : Type} (note : α → L → L) (result : α × E) (log : L) : α × Observed E L :=
  (result.1, { env := result.2, log := note result.1 log })

instance [SessionStores E] [Journal L] : SessionStores (Observed E L) where
  sessionId key o := SessionStores.sessionId key o.env
  sessionIsValid key o := SessionStores.sessionIsValid key o.env
  sessionOwner key o := SessionStores.sessionOwner key o.env
  managerName key o := SessionStores.managerName key o.env
  create manager o :=
    noted (fun made => Journal.session (.create manager made.toOption)) (SessionStores.create manager o.env) o.log
  isValid manager session o := noted (fun _ log => log) (SessionStores.isValid manager session o.env) o.log
  complete manager session o :=
    { env := SessionStores.complete manager session o.env
      log := Journal.session (.complete ⟨session, manager⟩) o.log }
  commit manager session o :=
    { env := SessionStores.commit manager session o.env
      log := Journal.session (.commit ⟨session, manager⟩) o.log }
  renew manager session o := noted (fun _ log => log) (SessionStores.renew manager session o.env) o.log

instance [LoginServices E] : LoginServices (Observed E L) where
  login service name password o := noted (fun _ log => log) (LoginServices.login service name password o.env) o.log
  logout service user o := { o with env := LoginServices.logout service user o.env }

instance [AttributeObservers E] : AttributeObservers (Observed E L) where
  notify observer event o := { o with env := AttributeObservers.notify observer event o.env }

instance [ResponseControl E] [Journal L] : ResponseControl (Observed E L) where
  markIncluding o := { env := ResponseControl.markIncluding o.env, log := Journal.response .including o.log }
  markIncluded o := { env := ResponseControl.markIncluded o.env, log := Journal.response .included o.log }
  resetForForward o :=
    noted (fun done => Journal.response (.reset done.toBool)) (ResponseControl.resetForForward o.env) o.log
  isOutputClosed o := ResponseControl.isOutputClosed o.env
  outputMode o := ResponseControl.outputMode o.env
  closeOutput o :=
    noted (fun done => Journal.response (.closeOutput done.toBool)) (ResponseControl.closeOutput o.env) o.log
  closeWriter o :=
    noted (fun done => Journal.response (.closeWriter done.toBool)) (ResponseControl.closeWriter o.env) o.log

def SameLog (before after : Observed E L) : Prop :=
  after.log = before.log

variable [Body.ExternalSources E] [LoginServices E] [AttributeObservers E]

theorem sameLog_of_consulted {o o' : Observed E L} (consulted : Consulted o o') : SameLog o o' := by
  cases consulted with
  | source call => cases call <;> rfl
  | login service name password => rfl
  | logout service user => rfl
  | notify observer event => rfl

theorem Consulted.unobserved {o o' : Observed E L} (consulted : Consulted o o') : Consulted o.env o'.env := by
  cases consulted with
  | source call =>
    cases call with
    | produce key => exact .source (.produce key)
    | wait key milliseconds => exact .source (.wait key milliseconds)
    | watch key => exact .source (.watch key)
    | sendContinue key => exact .source (.sendContinue key)
  | login service name password => exact .login service name password
  | logout service user => exact .logout service user
  | notify observer event => exact .notify observer event

omit [Body.ExternalSources E] [LoginServices E] [AttributeObservers E] in
theorem Sessions.Asked.unobserved [SessionStores E] [Journal L] {o o' : Observed E L} (asked : Sessions.Asked o o') :
    Sessions.Asked o.env o'.env := by
  cases asked with
  | create manager => exact .create manager
  | isValid manager session => exact .isValid manager session
  | complete manager session => exact .complete manager session
  | commit manager session => exact .commit manager session
  | renew manager session => exact .renew manager session

end Instances

namespace DispatchTarget

variable {E : Type} [ResponseControl E]

/-- What one call of the response does to the environment. -/
inductive Responded (e : E) : E → Prop
  | including : Responded e (ResponseControl.markIncluding e)
  | included : Responded e (ResponseControl.markIncluded e)
  | reset : Responded e (ResponseControl.resetForForward e).2
  | closeOutput : Responded e (ResponseControl.closeOutput e).2
  | closeWriter : Responded e (ResponseControl.closeWriter e).2

theorem environment_of_refused {t : DispatchTarget} {way : DispatchWay} {s : Request × E} {f : Failure}
    (refused : t.enter way s = .error f) (handler : Handler E) :
    (t.run way handler s).2.2 =
      match way with
      | .inclusion => ResponseControl.markIncluded (ResponseControl.markIncluding s.2)
      | .forward | .error => (ResponseControl.resetForForward s.2).2 := by
  have forwarded {kind : DispatchKind} (refused : t.enterForward kind s = .error f) :
      (t.runForwardAs kind handler s).2.2 = (ResponseControl.resetForForward s.2).2 := by
    unfold enterForward at refused
    unfold runForwardAs
    dsimp only
    generalize ResponseControl.resetForForward s.2 = reset at refused
    obtain ⟨g | _,e⟩ := reset
    · rfl
    · dsimp only at refused ⊢
      generalize s.1.beginForward kind t = begun at refused
      obtain ⟨g | _,left⟩ := begun
      · rfl
      · cases refused
  cases way with
  | inclusion =>
    unfold enter enterInclude at refused
    show (t.runInclude handler s).2.2 = _
    unfold runInclude
    cases begun : s.1.beginInclude t with
    | mk result left =>
      simp only [begun] at refused ⊢
      cases result with
      | ok _ => cases refused
      | error g => rfl
  | forward | error => exact forwarded refused

theorem Responded.unobserved {L : Type} [Journal L] {o o' : Observed E L} (responded : Responded o o') :
    Responded o.env o'.env := by
  cases responded with
  | including => exact .including
  | included => exact .included
  | reset => exact .reset
  | closeOutput => exact .closeOutput
  | closeWriter => exact .closeWriter

section Environment

variable {Q : E → E → Prop} (refl : ∀ e, Q e e) (trans : ∀ {a b c}, Q a b → Q b c → Q a c)
  (responded : ∀ {e e'}, Responded e e' → Q e e') {t : DispatchTarget} {way : DispatchWay} {s : Request × E}
include responded

theorem enter_environment {called : Request × E} (entered : t.enter way s = .ok called) : Q s.2 called.2 := by
  have forwarded {kind : DispatchKind} (entered : t.enterForward kind s = .ok called) : Q s.2 called.2 := by
    obtain ⟨e,reset,-,rfl⟩ := enterForward_eq_ok_iff.mp entered
    have asked : Q s.2 (ResponseControl.resetForForward s.2).2 := responded .reset
    rwa [reset] at asked
  cases way with
  | inclusion =>
    obtain ⟨-,rfl⟩ := enterInclude_eq_ok_iff.mp entered
    exact responded .including
  | forward | error => exact forwarded entered

include refl in
theorem leave_environment (way : DispatchWay) (t : DispatchTarget) (before : Request) (outcome : Outcome Unit)
    (left : Request × E) : Q left.2 (t.leave way before (outcome,left)).2.2 := by
  have closes : Q left.2 (ResponseControl.close left.2).2 := by
    unfold ResponseControl.close
    split
    · exact responded .closeWriter
    · exact responded .closeOutput
    · exact responded .closeOutput
  have closed : Q left.2 (t.closeAfter outcome left.1 left.2).2 := by
    unfold closeAfter
    split
    · exact closes
    · exact refl left.2
  cases way with
  | inclusion => exact responded .included
  | forward | error => exact closed

include trans in
theorem refused_environment {f : Failure} (refused : t.enter way s = .error f) (handler : Handler E) :
    Q s.2 (t.run way handler s).2.2 := by
  rw [environment_of_refused refused]
  cases way with
  | inclusion => exact trans (responded .including) (responded .included)
  | forward | error => exact responded .reset

end Environment

end DispatchTarget

namespace Program

variable {E : Type}

def Only (allowed : Operation E → Prop) : Program E → Prop
  | done _ => True
  | perform op next => allowed op ∧ ∀ before after, (next before after).Only allowed
  | dispatch _ _ handler next =>
    (∀ text, (handler text).Only allowed) ∧ ∀ outcome before after, (next outcome before after).Only allowed

/-- The program with a note made in the environment before each operation. -/
def noting (note : Operation E → E → E) : Program E → Program E
  | done outcome => done outcome
  | perform op next =>
    perform (.useEnvironment (note op)) fun _ noted => perform op fun _ after => (next noted after).noting note
  | dispatch way t handler next =>
    dispatch way t (fun text => (handler text).noting note) fun outcome before after =>
      (next outcome before after).noting note

variable [Body.ExternalSources E] [SessionStores E] [LoginServices E] [AttributeObservers E] [ResponseControl E]

theorem run_environment {Q : E → E → Prop} {allowed : Operation E → Prop} (refl : ∀ e, Q e e)
    (trans : ∀ {a b c}, Q a b → Q b c → Q a c) (operation : ∀ op s, allowed op → Q s.2 (op.run s).2)
    (dispatched : ∀ {way : DispatchWay} {t : DispatchTarget} {handler : Handler E} {s : Request × E},
      (∀ called, t.enter way s = .ok called → Q called.2 (handler t.text called).2.2) → Q s.2 (t.run way handler s).2.2)
    {p : Program E} {s : Request × E} (stays : p.Stays allowed s) : Q s.2 (p.run s).2.2 := by
  -- By induction on the program: what each of its operations does to the environment, and each
  -- dispatch if its handler does, the whole program does.
  induction p generalizing s with
  | done outcome => exact refl s.2
  | perform op next ih => exact trans (operation op s stays.1) (ih _ _ stays.2)
  | dispatch way t handler next inner ih =>
    have kept : Q s.2 (t.run way (handling handler) s).2.2 :=
      dispatched fun called entered => inner t.text (stays.1 called entered)
    exact trans kept (ih _ _ _ stays.2)

end Program

end HttpRequest
