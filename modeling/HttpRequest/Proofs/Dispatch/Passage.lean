import HttpRequest.Proofs.Dispatch.Journal
import HttpRequest.Proofs.Request.Metadata

/-! # Passing through dispatches

While a request proceeds only a few things are done to it and to the environment at each point: one
operation, one request line, the entry of one handler or the return from one. What each of them keeps,
from earlier states to later ones, holds from any state to any later one, however the handlers in
between have ended. A transcript is kept of what sources and observers are told.
-/
namespace HttpRequest

open DispatchTarget

namespace Request

section Carried
variable {E : Type} [UriGrammar] [Body.ExternalSources E] [SessionStores E] [LoginServices E] [AttributeObservers E]
  [ResponseControl E]

/-- A request proceeds from a state to another by operations that are allowed and request lines, into the
handlers of dispatches and out of them, in whatever way they end. -/
inductive Proceeds (allowed : Operation E → Prop) (s : Request × E) : Request × E → Prop
  | here : Proceeds allowed s s
  | performed {t : Request × E} {op : Operation E} (fine : allowed op) (before : Proceeds allowed s t) :
      Proceeds allowed s (op.run t)
  | described {t : Request × E} (method target : String) (version : Version) (headers : Headers)
      (before : Proceeds allowed s t) :
      Proceeds allowed s (Operation.accept t.1 (t.1.withMetadata method target version headers), t.2)
  | called {t inside : Request × E} {way : DispatchWay} {d : DispatchTarget} (before : Proceeds allowed s t)
      (entered : d.enter way t = .ok inside) : Proceeds allowed s inside
  | refused {t : Request × E} {way : DispatchWay} {d : DispatchTarget} {f : Failure} (before : Proceeds allowed s t)
      (refused : d.enter way t = .error f) (handler : Handler E) : Proceeds allowed s (d.run way handler t).2
  | returned {t : Request × E} (way : DispatchWay) (d : DispatchTarget) (caller : Request)
      (outcome : Outcome Unit) (before : Proceeds allowed s t) : Proceeds allowed s (d.leave way caller (outcome,t)).2

/-- A relation between earlier and later states that composes and that no single point breaks. -/
structure Carries (allowed : Operation E → Prop) (R : Request × E → Request × E → Prop) : Prop where
  refl : ∀ s, R s s
  trans : ∀ {a b c}, R a b → R b c → R a c
  operation : ∀ {op : Operation E} (s : Request × E), allowed op → R s (op.run s)
  described : ∀ (r : Request) (method target : String) (version : Version) (headers : Headers) (e : E),
    R (r,e) (Operation.accept r (r.withMetadata method target version headers),e)
  responded : ∀ (r : Request) {e e' : E}, Responded e e' → R (r,e) (r,e')
  entered : ∀ {r called : Request} {t : DispatchTarget} {way : DispatchWay} (e : E),
    Found r t way called → R (r,e) (called,e)
  unmerged : ∀ (r : Request) (e : E), R (r,e) (r.unmerged,e)
  restored : ∀ (t : DispatchTarget) (way : DispatchWay) (caller left : Request) (e : E),
    R (left,e) (t.restore way caller left,e)

variable {allowed : Operation E → Prop} {R : Request × E → Request × E → Prop} {s t u : Request × E}

theorem Proceeds.run {p : Program E} (before : Proceeds allowed s t) (stays : p.Stays allowed t) :
    Proceeds allowed s (p.run t).2 := by
  -- By induction on the program, the handlers of its dispatches included.
  induction p generalizing t with
  | done outcome => exact before
  | perform op next ih => exact ih _ _ (.performed stays.1 before) stays.2
  | dispatch way d handler next inner ih =>
    have ended : Proceeds allowed s (d.run way (Program.handling handler) t).2 := by
      cases entered : d.enter way t with
      | ok called =>
        rw [run_of_enter entered]
        exact .returned way d t.1 _ (inner d.text (.called before entered) (stays.1 called entered))
      | error f => exact .refused before entered _
    exact ih _ _ _ ended stays.2

theorem Proceeds.trans (first : Proceeds allowed s t) (second : Proceeds allowed t u) : Proceeds allowed s u := by
  induction second with
  | here => exact first
  | performed fine _ ih => exact .performed fine ih
  | described method target version headers _ ih => exact .described method target version headers ih
  | called _ entered ih => exact .called ih entered
  | refused _ refused handler ih => exact .refused ih refused handler
  | returned way d caller outcome _ ih => exact .returned way d caller outcome ih

theorem Carries.proceeds (carries : Carries allowed R) (on : Proceeds allowed s t) : R s t := by
  -- By induction on the course, with the environment followed before the request wherever both
  -- change.
  have refl (r : Request) (e : E) : R (r,e) (r,e) := carries.refl (r,e)
  induction on with
  | here => exact carries.refl s
  | performed fine _ ih => exact carries.trans ih (carries.operation _ fine)
  | described method target version headers _ ih =>
    exact carries.trans ih (carries.described _ method target version headers _)
  | @called t inside way d _ entered ih =>
    have asked : R (t.1,t.2) (t.1,inside.2) :=
      enter_environment (Q := fun e e' => R (t.1,e) (t.1,e')) (carries.responded t.1) entered
    exact carries.trans ih (carries.trans asked (carries.entered inside.2 (found_of_enter entered)))
  | @refused t way d f _ refused handler ih =>
    have asked : R (t.1,t.2) (t.1,(d.run way handler t).2.2) :=
      refused_environment (Q := fun e e' => R (t.1,e) (t.1,e')) carries.trans (carries.responded t.1) refused handler
    refine carries.trans ih (carries.trans asked ?_)
    obtain ⟨after,ends,same | unmerged⟩ := run_of_not_entered refused
    · rw [ends, ← same]
      exact carries.refl after
    · rw [ends]
      have dropped := carries.unmerged t.1 after.2
      rwa [← unmerged] at dropped
  | @returned t way d caller outcome _ ih =>
    have asked : R (t.1,t.2) (t.1,(d.leave way caller (outcome,t)).2.2) :=
      leave_environment (Q := fun e e' => R (t.1,e) (t.1,e')) (refl t.1) (carries.responded t.1) way d caller outcome t
    have restored := carries.restored d way caller t.1 (d.leave way caller (outcome,t)).2.2
    rw [← leave_request (t := d) way caller (outcome,t)] at restored
    exact carries.trans ih (carries.trans asked restored)

omit [Body.ExternalSources E] [SessionStores E] [LoginServices E] [AttributeObservers E] [ResponseControl E] in
theorem accept_withMetadata_body (r : Request) (method target : String) (version : Version) (headers : Headers) :
    (Operation.accept r (r.withMetadata method target version headers)).body = r.body := by
  rw [withMetadata_eq]
  cases r.requestLine method target headers <;> rfl

/-- Of the body it is enough to ask what operations do to it: dispatches and request lines leave it alone. -/
theorem carries_body {R : Body.Input × E → Body.Input × E → Prop} (refl : ∀ s, R s s)
    (trans : ∀ {a b c}, R a b → R b c → R a c)
    (operation : ∀ {op : Operation E} (s : Request × E), allowed op → R (s.1.body,s.2) ((op.run s).1.body,(op.run s).2))
    (responded : ∀ (i : Body.Input) {e e' : E}, Responded e e' → R (i,e) (i,e')) :
    Carries allowed fun s t => R (s.1.body,s.2) (t.1.body,t.2) where
  refl _ := refl _
  trans := trans
  operation := operation
  described r method target version headers e := by
    rw [accept_withMetadata_body]
    exact refl _
  responded r _ _ responds := responded r.body responds
  entered e found := by
    rw [found.kept.1]
    exact refl _
  unmerged _ _ := refl _
  restored t way caller left e := by
    rw [(t.restore_kept way caller left).1]
    exact refl _

end Carried

end Request

/-- What a source or an observer is told. -/
inductive Notice where
  | continued (source : Body.SourceKey)
  | notified (observer : ObserverKey) (event : AttributeEvent)
deriving Repr

/-- An environment, and what was told in it. -/
structure Transcript (E : Type) where
  env : E
  notices : List Notice := []

namespace Transcript
variable {E : Type}

def asked {α : Type} (ask : E → α × E) (t : Transcript E) : α × Transcript E :=
  ((ask t.env).1, { t with env := (ask t.env).2 })

def changed (change : E → E) (t : Transcript E) : Transcript E :=
  { t with env := change t.env }

def told (notice : Notice) (t : Transcript E) : Transcript E :=
  { t with notices := t.notices ++ [notice] }

instance [Body.ExternalSources E] : Body.ExternalSources (Transcript E) where
  produce key := asked (Body.ExternalSources.produce key)
  wait key milliseconds := asked (Body.ExternalSources.wait key milliseconds)
  watch key := asked (Body.ExternalSources.watch key)
  sendContinue key t := (t.told (.continued key)).asked (Body.ExternalSources.sendContinue key)
  patience key t := Body.ExternalSources.patience key t.env
  supply key t := Body.ExternalSources.supply key t.env

instance [SessionStores E] : SessionStores (Transcript E) where
  sessionId key t := SessionStores.sessionId key t.env
  sessionIsValid key t := SessionStores.sessionIsValid key t.env
  sessionOwner key t := SessionStores.sessionOwner key t.env
  managerName key t := SessionStores.managerName key t.env
  create manager := asked (SessionStores.create manager)
  isValid manager session := asked (SessionStores.isValid manager session)
  complete manager session := changed (SessionStores.complete manager session)
  commit manager session := changed (SessionStores.commit manager session)
  renew manager session := asked (SessionStores.renew manager session)

instance [LoginServices E] : LoginServices (Transcript E) where
  login service name password := asked (LoginServices.login service name password)
  logout service user := changed (LoginServices.logout service user)

instance [AttributeObservers E] : AttributeObservers (Transcript E) where
  notify observer event t := (t.told (.notified observer event)).changed (AttributeObservers.notify observer event)

instance [ResponseControl E] : ResponseControl (Transcript E) where
  markIncluding := changed ResponseControl.markIncluding
  markIncluded := changed ResponseControl.markIncluded
  resetForForward := asked ResponseControl.resetForForward
  isOutputClosed t := ResponseControl.isOutputClosed t.env
  outputMode t := ResponseControl.outputMode t.env
  closeOutput := asked ResponseControl.closeOutput
  closeWriter := asked ResponseControl.closeWriter

theorem filterMap_told {α : Type} (f : Notice → Option α) (notice : Notice) (t : Transcript E) :
    (t.told notice).notices.filterMap f = t.notices.filterMap f ++ (f notice).toList := by
  rw [told, List.filterMap_append]
  cases read : f notice with
  | none =>
    rw [List.filterMap_cons_none read]
    rfl
  | some event =>
    rw [List.filterMap_cons_some read]
    rfl

variable {t t' : Transcript E}

theorem notices_of_responded [ResponseControl E] (responded : Responded t t') : t'.notices = t.notices := by
  cases responded <;> rfl

theorem notices_of_asked [SessionStores E] (asked : Sessions.Asked t t') : t'.notices = t.notices := by
  cases asked <;> rfl

theorem notices_of_called [Body.ExternalSources E] (called : Body.Called t t') :
    t'.notices = t.notices ∨ ∃ source, t'.notices = t.notices ++ [.continued source] := by
  cases called with
  | produce key => exact .inl rfl
  | wait key milliseconds => exact .inl rfl
  | watch key => exact .inl rfl
  | sendContinue key => exact .inr ⟨key,rfl⟩

end Transcript

end HttpRequest
