import HttpRequest.Proofs.Body.Moves
import HttpRequest.Proofs.Request.Parameters

/-! # What operations do to the body and to the environment

An operation reaches the body through the moves of inputs, and the environment through calls of its
collaborators, unless it is one that uses the body or the environment at will. Most operations touch
neither the body nor the sessions.
-/
namespace HttpRequest

namespace Request

variable {E : Type}

/-- The attempt keeps to a relation on the body together with the environment. -/
def MovesBody {α : Type} (R : Body.Input × E → Body.Input × E → Prop) (a : Attempt (Request × E) α) : Prop :=
  a.Within fun s t => R (s.1.body,s.2) (t.1.body,t.2)

variable [Body.ExternalSources E] {R : Body.Input × E → Body.Input × E → Prop} (h : Body.Moves R)
include h

theorem movesBody_bind {α β : Type} {a : Attempt (Request × E) α} {f : α → Attempt (Request × E) β}
    (first : MovesBody R a) (next : ∀ x, MovesBody R (f x)) : MovesBody R (a >>= f) :=
  Attempt.within_bind (R := fun s t : Request × E => R (s.1.body,s.2) (t.1.body,t.2))
    (fun _ _ _ before after => h.trans before after) first next

theorem movesBody_pure {α : Type} (x : α) : MovesBody R (pure x : Attempt (Request × E) α) :=
  fun _ => h.refl _

theorem movesBody_throw {α : Type} (f : Failure) : MovesBody R (throw f : Attempt (Request × E) α) :=
  fun _ => h.refl _

theorem movesBody_lift {α : Type} (result : Except Failure α) :
    MovesBody R (liftM result : Attempt (Request × E) α) := by
  intro s
  cases result <;> exact h.refl _

theorem movesBody_unless {α : Type} {c : Prop} [Decidable c] (f : Failure)
    {next : Unit → Attempt (Request × E) α} (goesOn : MovesBody R (next ())) :
    MovesBody R (if c then throw f >>= next else next ()) := by
  split
  · exact movesBody_bind h (movesBody_throw h f) fun _ => goesOn
  · exact goesOn

theorem movesBody_current : MovesBody R (current : Attempt (Request × E) Request) :=
  fun _ => h.refl _

theorem movesBody_changeParams (f : ParamCache → ParamCache) :
    MovesBody R (changeParams f : Attempt (Request × E) Unit) :=
  fun _ => h.refl _

omit [Body.ExternalSources E] h in
theorem movesBody_onBody {α : Type} {a : Attempt (Body.Input × E) α} (moves : a.Within R) :
    MovesBody R (onBody a) :=
  fun s => moves (s.1.body,s.2)

theorem movesBody_chooseBody {choice : Body.Input → Except Failure Body.Input}
    (moves : ∀ i j e, choice i = .ok j → R (i,e) (j,e)) :
    MovesBody R (chooseBody choice : Attempt (Request × E) Unit) := by
  rintro ⟨r,e⟩
  rw [chooseBody_exec]
  cases choosing : choice r.body with
  | error f => exact h.refl _
  | ok body => exact moves r.body body e choosing

theorem movesBody_sendContinue : MovesBody R (onBody (.of Body.Input.sendContinue) : Attempt (Request × E) Unit) :=
  movesBody_onBody h.sendContinue

theorem movesBody_openStream : MovesBody R (openStream : Attempt (Request × E) Unit) :=
  movesBody_bind h (movesBody_chooseBody h fun _ _ e entered => h.enterStream entered e) fun _ =>
    movesBody_sendContinue h

theorem movesBody_openReader : MovesBody R (openReader : Attempt (Request × E) Unit) := by
  apply movesBody_bind h (movesBody_current h)
  intro r
  split
  · apply movesBody_bind h (movesBody_lift h _)
    intro charset
    exact movesBody_bind h (movesBody_chooseBody h fun _ _ e entered => h.enterReader entered e) fun _ =>
      movesBody_sendContinue h
  · exact movesBody_chooseBody h fun _ _ e entered => h.enterReader entered e

theorem movesBody_extractForm : MovesBody R (extractForm : Attempt (Request × E) Params) := by
  refine movesBody_bind h (movesBody_current h) fun r => movesBody_unless h _ ?_
  apply movesBody_bind h (movesBody_lift h _)
  intro charset
  apply movesBody_bind h (movesBody_openStream h)
  intro _
  refine movesBody_bind h (movesBody_current h) fun opened => movesBody_unless h _ ?_
  apply movesBody_bind h (movesBody_onBody fun s => readFormPieces_moves h _ _ 0 [] s)
  intro bytes
  split
  · exact movesBody_pure h _
  · exact movesBody_throw h _

theorem movesBody_extractBody : MovesBody R (extractBody : Attempt (Request × E) Params) := by
  apply movesBody_bind h (movesBody_current h)
  intro r
  split
  · exact movesBody_pure h _
  · exact movesBody_unless h _ (movesBody_extractForm h)

theorem movesBody_bodyParams : MovesBody R (bodyParams : Attempt (Request × E) Params) := by
  apply movesBody_bind h (movesBody_current h)
  intro r
  split
  · exact movesBody_pure h _
  · apply movesBody_bind h (movesBody_changeParams h _)
    intro _
    apply movesBody_bind h (movesBody_extractBody h)
    intro p
    exact movesBody_bind h (movesBody_changeParams h _) fun _ => movesBody_pure h _

theorem movesBody_queryParams : MovesBody R (queryParams : Attempt (Request × E) Params) := by
  rintro ⟨r,e⟩
  rw [queryParams_exec]
  split <;> exact h.refl _

theorem movesBody_allParams : MovesBody R (allParams : Attempt (Request × E) Params) := by
  rintro ⟨r,e⟩
  rw [allParams_exec]
  have asked := movesBody_queryParams h (r,e)
  split
  · exact h.refl _
  · split
    next failed => rw [failed] at asked; exact asked
    next t known =>
      rw [known] at asked
      have looked := h.trans asked (movesBody_bodyParams h t)
      split
      next failed => rw [failed] at looked; exact looked
      next found => rw [found] at looked; exact looked

end Request

/-- What one call of a login service or an observer does to the environment, or one of a source. -/
inductive Consulted {E : Type} [Body.ExternalSources E] [LoginServices E] [AttributeObservers E] (e : E) : E → Prop
  | source {e' : E} (call : Body.Called e e') : Consulted e e'
  | login (service : LoginKey) (name password : String) : Consulted e (LoginServices.login service name password e).2
  | logout (service : LoginKey) (user : User) : Consulted e (LoginServices.logout service user e)
  | notify (observer : ObserverKey) (event : AttributeEvent) : Consulted e (AttributeObservers.notify observer event e)

/-- What one call of a session manager does to the environment. -/
inductive Sessions.Asked {E : Type} [SessionStores E] (e : E) : E → Prop
  | create (manager : ManagerKey) : Asked e (SessionStores.create manager e).2
  | isValid (manager : ManagerKey) (session : SessionKey) : Asked e (SessionStores.isValid manager session e).2
  | complete (manager : ManagerKey) (session : SessionKey) : Asked e (SessionStores.complete manager session e)
  | commit (manager : ManagerKey) (session : SessionKey) : Asked e (SessionStores.commit manager session e)
  | renew (manager : ManagerKey) (session : SessionKey) : Asked e (SessionStores.renew manager session e).2

section Environments

variable {E : Type} {Q : E → E → Prop} (refl : ∀ e, Q e e) (trans : ∀ {a b c}, Q a b → Q b c → Q a c)
include refl trans

theorem foldl_within {α : Type} {call : E → α → E} (within : ∀ e x, Q e (call e x)) (l : List α) (e : E) :
    Q e (l.foldl call e) := by
  induction l generalizing e with
  | nil => exact refl e
  | cons x rest ih => exact trans (within e x) (ih (call e x))

namespace Sessions

variable [SessionStores E] (asked : ∀ {e e'}, Asked e e' → Q e e')
include asked

omit trans in
theorem validCurrent_within (s : Sessions × E) : Q s.2 (validCurrent s).2.2 := by
  have judged (manager : Option ManagerKey) (session : SessionKey) (e : E) :
      Q e (currentIsValid manager session e).2 := by
    unfold currentIsValid
    split
    · split
      · exact asked (.isValid _ session)
      · exact refl e
    · exact refl e
  unfold validCurrent
  dsimp only
  split
  · exact refl s.2
  · split <;> exact judged _ _ s.2

omit trans in
theorem createCurrent_within (s : Sessions × E) : Q s.2 (createCurrent s).2.2 := by
  unfold createCurrent
  dsimp only
  split
  · exact refl s.2
  next manager _ =>
    have created : Q s.2 (SessionStores.create manager s.2).2 := asked (.create manager)
    split
    next failed => rw [failed] at created; exact created
    next made => rw [made] at created; exact created

omit trans in
theorem renewId_within (s : Sessions) (session : SessionKey) (e : E) : Q e (s.renewId session e).2 := by
  unfold renewId
  split
  next manager _ => exact asked (.renew manager session)
  · exact refl e

theorem getOrCreate_within (create committed : Bool) (s : Sessions × E) :
    Q s.2 (getOrCreate create committed s).2.2 := by
  have first := validCurrent_within refl asked s
  unfold getOrCreate
  split
  next valid => rw [valid] at first; exact first
  next missing =>
    rw [missing] at first
    split
    · exact first
    · split
      · exact first
      · have made := trans first (createCurrent_within refl asked _)
        split
        next done => rw [done] at made; exact made
        next failed => rw [failed] at made; exact made

end Sessions

namespace Request

section Notifying

variable [AttributeObservers E] (notified : ∀ key event (e : E), Q e (AttributeObservers.notify key event e))
include notified

theorem notifyAll_within (r : Request) (event : AttributeEvent) (e : E) : Q e (r.notifyAll event e) :=
  foldl_within refl trans (fun e key => notified key event e) r.observers e

theorem setAttribute_within (name : String) (value : AttributeValue) (s : Request × E) :
    Q s.2 (setAttribute name value s).2 := by
  unfold setAttribute
  dsimp only
  split
  · exact notifyAll_within refl trans notified _ _ s.2
  · exact refl s.2

theorem removeAttribute_within (name : String) (s : Request × E) : Q s.2 (removeAttribute name s).2.2 := by
  unfold removeAttribute
  dsimp only
  split
  · exact notifyAll_within refl trans notified _ _ s.2
  · exact refl s.2

end Notifying

section Serving

variable [LoginServices E]

omit trans in
theorem login_within (served : ∀ service name password (e : E), Q e (LoginServices.login service name password e).2)
    (name password : String) (s : Request × E) : Q s.2 (login name password s).2.2 := by
  unfold login
  dsimp only
  split
  · exact refl s.2
  · exact refl s.2
  next service _ _ =>
    have told : Q s.2 (LoginServices.login service name password s.2).2 := served service name password s.2
    split
    next failed => rw [failed] at told; exact told
    next refused => rw [refused] at told; exact told
    next accepted => rw [accepted] at told; exact told

omit trans in
theorem logout_within (served : ∀ service user (e : E), Q e (LoginServices.logout service user e)) (s : Request × E) :
    Q s.2 (logout s).2 := by
  unfold logout
  dsimp only
  split
  next user service _ _ => exact served service user s.2
  · exact refl s.2

end Serving

section Asking

variable [SessionStores E] (asked : ∀ {e e'}, Sessions.Asked e e' → Q e e')
include asked

theorem changeSessionId_within (s : Request × E) : Q s.2 (changeSessionId s).2.2 := by
  have found : Q s.2 (session false s).2.2 :=
    Sessions.getOrCreate_within refl trans asked false s.1.committed (s.1.sessions,s.2)
  unfold changeSessionId
  split
  next failed => rw [failed] at found; exact found
  next missing => rw [missing] at found; exact found
  next key after left current =>
    rw [current] at found
    exact trans found (Sessions.renewId_within refl asked after.sessions key left)

theorem commit_within (s : Request × E) : Q s.2 (commit s).2 := by
  unfold commit
  dsimp only
  split
  · exact refl s.2
  · exact foldl_within refl trans (fun e entry => asked (.commit entry.manager entry.session)) s.1.sessions.entered s.2

end Asking

end Request

end Environments

namespace Operation

open Request

variable {E : Type}

def touchesBody : Operation E → Bool
  | setSource _ | setListener _ | useBody _ | readQuery | readForm | readParams | openStream | openReader => true
  | _ => false

def changesAttributes : Operation E → Bool
  | setAttribute _ _ | removeAttribute _ | clearAttributes => true
  | _ => false

def addsObserver : Operation E → Bool
  | addObserver _ => true
  | _ => false

def usesSessions : Operation E → Bool
  | setSessionManager _ | enterSession _ _ | setSession _ | findSession _ | changeSessionId | commit | complete => true
  | _ => false

theorem touchesBody_of_looks {op : Operation E} (looks : op.looks = true) : op.touchesBody = true := by
  cases op <;> first | rfl | cases looks

/-- What the operation does to the environment at will keeps to a relation. -/
def WillsWithin (Q : E → E → Prop) : Operation E → Prop
  | useBody change => ∀ s, Q s.2 (change s).2
  | useEnvironment change => ∀ e, Q e (change e)
  | _ => True

variable [Body.ExternalSources E] [SessionStores E] [LoginServices E] [AttributeObservers E]

theorem moves_of_looks {R : Body.Input × E → Body.Input × E → Prop} (h : Body.Moves R) {op : Operation E}
    (looks : op.looks = true) (s : Request × E) : R (s.1.body,s.2) ((op.run s).1.body,(op.run s).2) := by
  cases op with
  | readQuery => exact movesBody_queryParams h s
  | readForm => exact movesBody_bodyParams h s
  | readParams => exact movesBody_allParams h s
  | openStream => exact movesBody_openStream h s
  | openReader => exact movesBody_openReader h s
  | _ => cases looks

/-- What an operation leaves alone if it is none of those that are for changing it. -/
structure Rest (op : Operation E) (before after : Request) : Prop where
  body : op.touchesBody = false → after.body = before.body
  sessions : op.usesSessions = false → after.sessions = before.sessions
  committed : op.usesSessions = false → after.committed = before.committed
  attributes : op.changesAttributes = false → after.attributes = before.attributes
  observers : op.addsObserver = false → after.observers = before.observers

theorem run_rest (op : Operation E) (s : Request × E) : op.Rest s.1 (op.run s).1 := by
  obtain ⟨r,e⟩ := s
  have kept {changed after : Request} (same : after = changed) (rest : op.Rest r changed) : op.Rest r after := same ▸ rest
  cases op with
  | readQuery => exact kept (looks_queryParams (r,e)).same ⟨nofun,fun _ => rfl,fun _ => rfl,fun _ => rfl,fun _ => rfl⟩
  | readForm => exact kept (looks_bodyParams (r,e)).same ⟨nofun,fun _ => rfl,fun _ => rfl,fun _ => rfl,fun _ => rfl⟩
  | readParams => exact kept (looks_allParams (r,e)).same ⟨nofun,fun _ => rfl,fun _ => rfl,fun _ => rfl,fun _ => rfl⟩
  | openStream => exact kept (looks_openStream (r,e)).same ⟨nofun,fun _ => rfl,fun _ => rfl,fun _ => rfl,fun _ => rfl⟩
  | openReader => exact kept (looks_openReader (r,e)).same ⟨nofun,fun _ => rfl,fun _ => rfl,fun _ => rfl,fun _ => rfl⟩
  | setSource | setListener | useBody => exact ⟨nofun,fun _ => rfl,fun _ => rfl,fun _ => rfl,fun _ => rfl⟩
  | setSessionManager | enterSession | setSession | findSession | complete =>
    exact ⟨fun _ => rfl,nofun,nofun,fun _ => rfl,fun _ => rfl⟩
  | changeSessionId =>
    obtain ⟨_,same⟩ := changeSessionId_cases (r,e)
    exact kept same ⟨fun _ => rfl,nofun,nofun,fun _ => rfl,fun _ => rfl⟩
  | commit =>
    obtain ⟨_,same⟩ := commit_cases (r,e)
    exact kept same ⟨fun _ => rfl,nofun,nofun,fun _ => rfl,fun _ => rfl⟩
  | setAttribute name value =>
    obtain ⟨_,same⟩ := setAttribute_cases name value (r,e)
    exact kept same ⟨fun _ => rfl,fun _ => rfl,fun _ => rfl,nofun,fun _ => rfl⟩
  | removeAttribute name =>
    obtain ⟨_,same⟩ := removeAttribute_cases name (r,e)
    exact kept same ⟨fun _ => rfl,fun _ => rfl,fun _ => rfl,nofun,fun _ => rfl⟩
  | clearAttributes => exact ⟨fun _ => rfl,fun _ => rfl,fun _ => rfl,nofun,fun _ => rfl⟩
  | addObserver => exact ⟨fun _ => rfl,fun _ => rfl,fun _ => rfl,fun _ => rfl,nofun⟩
  | setEncoding name =>
    obtain ⟨_,same⟩ := accept_withEncoding r name
    exact kept same ⟨fun _ => rfl,fun _ => rfl,fun _ => rfl,fun _ => rfl,fun _ => rfl⟩
  | setQueryEncoding name =>
    obtain ⟨_,same⟩ := accept_withQueryEncoding r name
    exact kept same ⟨fun _ => rfl,fun _ => rfl,fun _ => rfl,fun _ => rfl,fun _ => rfl⟩
  | startAsync =>
    obtain ⟨_,same⟩ := accept_startAsync r
    exact kept same ⟨fun _ => rfl,fun _ => rfl,fun _ => rfl,fun _ => rfl,fun _ => rfl⟩
  | findRequestedSession cookieName parameterName =>
    obtain ⟨_,same⟩ := findRequestedSession_cases r cookieName parameterName
    exact kept same ⟨fun _ => rfl,fun _ => rfl,fun _ => rfl,fun _ => rfl,fun _ => rfl⟩
  | login name password =>
    obtain ⟨_,same⟩ := login_cases name password (r,e)
    exact kept same ⟨fun _ => rfl,fun _ => rfl,fun _ => rfl,fun _ => rfl,fun _ => rfl⟩
  | _ => exact ⟨fun _ => rfl,fun _ => rfl,fun _ => rfl,fun _ => rfl,fun _ => rfl⟩

/-- An operation moves the body, but for the two that attach a source or use it at will, and the environment
changes while the body rests. -/
theorem run_moves {R : Body.Input × E → Body.Input × E → Prop} (h : Body.Moves R) (op : Operation E) (s : Request × E)
    (attached : ∀ source, op = setSource source → R (s.1.body,s.2) ((s.1.withSource source).body,s.2))
    (used : ∀ change, op = useBody change → R (s.1.body,s.2) (change (s.1.body,s.2)))
    (elsewhere : op.touchesBody = false → R (s.1.body,s.2) (s.1.body,(op.run s).2)) :
    R (s.1.body,s.2) ((op.run s).1.body,(op.run s).2) := by
  cases touches : op.touchesBody with
  | false =>
    rw [(op.run_rest s).body touches]
    exact elsewhere touches
  | true =>
    cases op with
    | readQuery | readForm | readParams | openStream | openReader => exact moves_of_looks h rfl s
    | setSource source => exact attached source rfl
    | useBody change => exact used change rfl
    | setListener l =>
      show R (s.1.body,s.2) ((s.1.body.setListener l).toOption.getD s.1.body,s.2)
      cases set : s.1.body.setListener l with
      | error f => exact h.refl _
      | ok i => exact h.quiet s.2 (Body.Input.setListener_quiet set)
    | _ => cases touches

section Environment

variable {Q : E → E → Prop} (refl : ∀ e, Q e e) (trans : ∀ {a b c}, Q a b → Q b c → Q a c)
include refl trans

omit [SessionStores E] [LoginServices E] [AttributeObservers E] in
theorem moves_of_called (called : ∀ {e e' : E}, Body.Called e e' → Q e e') :
    Body.Moves fun s t : Body.Input × E => Q s.2 t.2 := by
  apply Body.Moves.of_called
  · exact trans
  · exact fun e _ => refl e
  · exact fun _ _ e _ => refl e
  · exact fun _ _ _ => called

/-- An operation acts on the environment through its collaborators, or at will. Sources are called by those
that look at the body, observers by those that change attributes. -/
theorem run_environment_within {op : Operation E} (wills : op.WillsWithin Q)
    (called : op.looks = true → ∀ {e e'}, Body.Called e e' → Q e e')
    (login : ∀ service name password (e : E), Q e (LoginServices.login service name password e).2)
    (logout : ∀ service user (e : E), Q e (LoginServices.logout service user e))
    (notified : op.changesAttributes = true → ∀ key event (e : E), Q e (AttributeObservers.notify key event e))
    (asked : op.usesSessions = true → ∀ {e e'}, Sessions.Asked e e' → Q e e') (s : Request × E) :
    Q s.2 (op.run s).2 := by
  have looked (looks : op.looks = true) : Q s.2 (op.run s).2 :=
    op.moves_of_looks (moves_of_called refl trans (called looks)) looks s
  cases op with
  | readQuery | readForm | readParams | openStream | openReader => exact looked rfl
  | useBody change => exact wills (s.1.body,s.2)
  | useEnvironment change => exact wills s.2
  | setAttribute name value => exact setAttribute_within refl trans (notified rfl) name value s
  | removeAttribute name => exact removeAttribute_within refl trans (notified rfl) name s
  | login name password => exact login_within refl login name password s
  | logout => exact logout_within refl logout s
  | findSession create =>
    exact Sessions.getOrCreate_within refl trans (asked rfl) create s.1.committed (s.1.sessions,s.2)
  | changeSessionId => exact changeSessionId_within refl trans (asked rfl) s
  | commit => exact commit_within refl trans (asked rfl) s
  | complete =>
    exact foldl_within refl trans (fun e entry => asked rfl (.complete entry.manager entry.session))
      s.1.sessions.entered s.2
  | _ => exact refl s.2

theorem run_environment {op : Operation E} (consulted : ∀ {e e'}, Consulted e e' → Q e e') (wills : op.WillsWithin Q)
    (asked : op.usesSessions = true → ∀ {e e'}, Sessions.Asked e e' → Q e e') (s : Request × E) :
    Q s.2 (op.run s).2 :=
  run_environment_within refl trans wills (fun _ _ _ call => consulted (.source call))
    (fun service name password _ => consulted (.login service name password))
    (fun service user _ => consulted (.logout service user)) (fun _ key event _ => consulted (.notify key event)) asked s

end Environment

end Operation

end HttpRequest
