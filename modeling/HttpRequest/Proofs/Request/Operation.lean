import HttpRequest.Proofs.Attempt
import HttpRequest.Proofs.Body.Moves
import HttpRequest.Request.Lifecycle
import HttpRequest.Request.Metadata
import HttpRequest.Request.Parameters

/-! # Operations on a request

What a handler may do to its request, one operation at a time, and what no such operation touches:
the address, the kind of the dispatch and the layers of attributes belong to the dispatches, and the
parameters of the query are computed once and then kept.
-/
namespace HttpRequest

/-- What is done to a request while it is handled. The body and the environment may be used in any
way. -/
inductive Operation (E : Type) where
  | setSource (source : Body.Source)
  | setContextPath (path : Option String)
  | setHandlerPath (path : Option String)
  | setPathInfo (path : Option String)
  | setMapping (route : Option Route)
  | setSecure (secure : Bool)
  | setEnds (remote localEnd : Option Endpoint)
  | setRemote (remote : Option Endpoint)
  | setHandled (handled : Bool)
  | setContentType (type : Option String)
  | setEncoding (name : String)
  | setQueryEncoding (name : Option String)
  | setAttribute (name : String) (value : AttributeValue)
  | removeAttribute (name : String)
  | clearAttributes
  | addObserver (key : ObserverKey)
  | readQuery
  | readForm
  | readParams
  | openStream
  | openReader
  | setListener (listener : Body.ListenerKey)
  | useBody (change : Body.Input × E → Body.Input × E)
  | setSessionManager (manager : Option ManagerKey)
  | enterSession (session : SessionKey) (manager : ManagerKey)
  | setSession (session : Option SessionKey)
  | findSession (create : Bool)
  | changeSessionId
  | setRequestedSession (id : Option String) (fromCookie : Bool)
  | findRequestedSession (cookieName parameterName : String)
  | setAuthentication (authentication : Authentication)
  | setLoginService (service : Option LoginKey)
  | login (name password : String)
  | logout
  | setAsyncSupport (supported : Bool) (source : Option String)
  | startAsync
  | commit
  | complete
  | useEnvironment (change : E → E)

namespace Operation

variable {E : Type} [Body.ExternalSources E] [SessionStores E] [LoginServices E] [AttributeObservers E]

/-- The request after a change that may be refused, in which case it stays as it is. -/
def accept (r : Request) (result : Except Failure Request) : Request :=
  result.toOption.getD r

def run (op : Operation E) (s : Request × E) : Request × E :=
  let (r, e) := s
  match op with
  | setSource source => (r.withSource source, e)
  | setContextPath path => ({ r with contextPath := path }, e)
  | setHandlerPath path => ({ r with handlerPath := path }, e)
  | setPathInfo path => ({ r with pathInfo := path }, e)
  | setMapping route => ({ r with mapping := route }, e)
  | setSecure secure => ({ r with secure }, e)
  | setEnds remote localEnd => ({ r with remote, localEnd }, e)
  | setRemote remote => ({ r with remoteOverride := remote }, e)
  | setHandled handled => ({ r with handled }, e)
  | setContentType type => ({ r with contentTypeOverride := type }, e)
  | setEncoding name => (accept r (r.withEncoding name), e)
  | setQueryEncoding name => (accept r (r.withQueryEncoding name), e)
  | setAttribute name value => Request.setAttribute name value s
  | removeAttribute name => (Request.removeAttribute name s).2
  | clearAttributes => (r.clearAttributes.2, e)
  | addObserver key => ({ r with observers := r.observers ++ [key] }, e)
  | readQuery => (Request.queryParams.exec s).2
  | readForm => (Request.bodyParams.exec s).2
  | readParams => (Request.allParams.exec s).2
  | openStream => (Request.openStream.exec s).2
  | openReader => (Request.openReader.exec s).2
  | setListener listener => ({ r with body := (r.body.setListener listener).toOption.getD r.body }, e)
  | useBody change => ({ r with body := (change (r.body, e)).1 }, (change (r.body, e)).2)
  | setSessionManager manager => ({ r with sessions := { r.sessions with manager } }, e)
  | enterSession session manager => ({ r with sessions := r.sessions.enter session manager }, e)
  | setSession session => ({ r with sessions := { r.sessions with current := session } }, e)
  | findSession create => (Request.session create s).2
  | changeSessionId => (Request.changeSessionId s).2
  | setRequestedSession id fromCookie => (r.withRequestedSession id fromCookie, e)
  | findRequestedSession cookieName parameterName =>
    (r.findRequestedSession cookieName parameterName, e)
  | setAuthentication authentication => ({ r with authentication }, e)
  | setLoginService service => ({ r with loginService := service }, e)
  | login name password => (Request.login name password s).2
  | logout => Request.logout s
  | setAsyncSupport supported source => (r.withAsyncSupport supported source, e)
  | startAsync => (accept r r.startAsync, e)
  | commit => Request.commit s
  | complete => Request.complete s
  | useEnvironment change => (r, change e)

end Operation

namespace Attributes

def spaces (a : Attributes) : List Space :=
  a.layers.map (·.space)

theorem putThrough_spaces (name : String) (value : Option AttributeValue) (base : AttributeTable)
    (layers : List Layer) :
    (putThrough name value base layers).2.spaces = layers.map (·.space) := by
  induction layers with
  | nil => rfl
  | cons layer below ih =>
    unfold putThrough
    split
    · rfl
    · exact congrArg (layer.space :: ·) ih

@[simp] theorem spaces_put (a : Attributes) (name : String) (value : Option AttributeValue) :
    (a.put name value).2.spaces = a.spaces :=
  putThrough_spaces name value a.base a.layers

@[simp] theorem spaces_clear (a : Attributes) : a.clear.2.spaces = a.spaces := by
  unfold clear
  split
  next plain => simp [spaces, List.isEmpty_iff.mp plain]
  · rfl

@[simp] theorem spaces_push (a : Attributes) (space : Space) (record : DispatchRecord) :
    (a.push space record).spaces = space :: a.spaces := rfl

@[simp] theorem spaces_pop (a : Attributes) : a.pop.2.spaces = a.spaces.tail := by
  simp [pop, spaces]

end Attributes

namespace Request

/-- The query parameters as a handler that asks for them now would see them. -/
def seenQuery (r : Request) : Except Failure Params :=
  match r.params.query with
  | some p => .ok p
  | none => decodeQuery r.queryString? r.queryEncoding

theorem seenQuery_congr {before after : Request} (query : after.params.query = before.params.query)
    (uri : after.uri = before.uri) (encoding : after.queryEncoding = before.queryEncoding) :
    after.seenQuery = before.seenQuery := by
  simp only [seenQuery, queryString?, query, uri, encoding]

/-- What belongs to the dispatches is the same in two states of a request. -/
structure SameStage (before after : Request) : Prop where
  kind : after.kind = before.kind
  uri : after.uri = before.uri
  spaces : after.attributes.spaces = before.attributes.spaces

namespace SameStage

theorem refl (r : Request) : SameStage r r := ⟨rfl,rfl,rfl⟩

theorem trans {a b c : Request} (first : SameStage a b) (second : SameStage b c) : SameStage a c :=
  ⟨second.kind.trans first.kind,second.uri.trans first.uri,second.spaces.trans first.spaces⟩

end SameStage

/-- Between two states at most the body was used and parameters were computed. -/
structure Looked (before after : Request) : Prop where
  stage : SameStage before after
  encoding : after.queryCharset = before.queryCharset
  seen : after.seenQuery = before.seenQuery
  same : after = { before with body := after.body, params := after.params }
  computed : before.params.query.isSome → after.params.query = before.params.query
  wire : Body.Input.SameWire before.body after.body

namespace Looked

theorem refl (r : Request) : Looked r r := ⟨.refl r,rfl,rfl,rfl,fun _ => rfl,.refl r.body⟩

theorem trans {a b c : Request} (first : Looked a b) (second : Looked b c) : Looked a c := by
  refine ⟨first.stage.trans second.stage,second.encoding.trans first.encoding,second.seen.trans first.seen,?_,?_,
    first.wire.trans second.wire⟩
  · rw [second.same, first.same]
  · intro known
    have kept := first.computed known
    exact (second.computed (kept ▸ known)).trans kept

end Looked

section Attempts
variable {E : Type}

def Looks {α : Type} (a : Attempt (Request × E) α) : Prop :=
  a.Within fun s t => Looked s.1 t.1

theorem looks_bind {α β : Type} {a : Attempt (Request × E) α} {f : α → Attempt (Request × E) β}
    (first : Looks a) (next : ∀ x, Looks (f x)) : Looks (a >>= f) :=
  Attempt.within_bind (R := fun s t : Request × E => Looked s.1 t.1) (fun _ _ _ h g => h.trans g) first next

theorem looks_pure {α : Type} (x : α) : Looks (pure x : Attempt (Request × E) α) :=
  Attempt.within_pure (fun s => Looked.refl s.1) x

theorem looks_throw {α : Type} (f : Failure) : Looks (throw f : Attempt (Request × E) α) :=
  Attempt.within_throw (fun s => Looked.refl s.1) f

theorem looks_lift {α : Type} (result : Except Failure α) :
    Looks (liftM result : Attempt (Request × E) α) :=
  Attempt.within_lift (fun s => Looked.refl s.1) result

theorem looks_unless {α : Type} {c : Prop} [Decidable c] (f : Failure)
    {next : Unit → Attempt (Request × E) α} (h : Looks (next ())) :
    Looks (if c then throw f >>= next else next ()) := by
  split
  · exact looks_bind (looks_throw f) fun _ => h
  · exact h

theorem looks_current : Looks (current : Attempt (Request × E) Request) :=
  looks_bind (Attempt.within_get fun s => Looked.refl s.1) fun _ => looks_pure _

theorem looks_onBody {α : Type} {a : Attempt (Body.Input × E) α}
    (keeps : a.Within fun s t => Body.Input.SameWire s.1 t.1) : Looks (onBody a) :=
  fun s => ⟨⟨rfl,rfl,rfl⟩,rfl,rfl,rfl,fun _ => rfl,keeps (s.1.body,s.2)⟩

theorem exec_current_bind {α : Type} (r : Request) (e : E) (f : Request → Attempt (Request × E) α) :
    (current >>= f).exec (r,e) = (f r).exec (r,e) := rfl

theorem chooseBody_exec (choice : Body.Input → Except Failure Body.Input) (r : Request) (e : E) :
    (chooseBody choice : Attempt (Request × E) Unit).exec (r,e) =
      match choice r.body with
      | .ok body => (.ok (),({ r with body },e))
      | .error f => (.error f,(r,e)) := by
  rw [chooseBody, exec_current_bind]
  cases choice r.body <;> rfl

theorem looks_chooseBody {choice : Body.Input → Except Failure Body.Input}
    (keeps : ∀ i j (_ : E), choice i = .ok j → Body.Input.SameWire i j) :
    Looks (chooseBody choice : Attempt (Request × E) Unit) := by
  rintro ⟨r,e⟩
  rw [chooseBody_exec]
  cases choosing : choice r.body with
  | error f => exact .refl r
  | ok body => exact ⟨⟨rfl,rfl,rfl⟩,rfl,rfl,rfl,fun _ => rfl,keeps _ _ e choosing⟩

section Sources
variable [Body.ExternalSources E]

theorem looks_sendContinue : Looks (onBody (.of Body.Input.sendContinue) : Attempt (Request × E) Unit) :=
  looks_onBody Body.moves_wire.sendContinue

theorem looks_openStream : Looks (openStream : Attempt (Request × E) Unit) :=
  looks_bind (looks_chooseBody fun _ _ e entered => Body.moves_wire.enterStream entered e) fun _ => looks_sendContinue

theorem looks_openReader : Looks (openReader : Attempt (Request × E) Unit) := by
  apply looks_bind looks_current
  intro r
  split
  · exact looks_bind (looks_lift _) fun _ =>
      looks_bind (looks_chooseBody fun _ _ e entered => Body.moves_wire.enterReader entered e) fun _ => looks_sendContinue
  · exact looks_chooseBody fun _ _ e entered => Body.moves_wire.enterReader entered e

end Sources

theorem looks_changeParams {f : ParamCache → ParamCache} (same : ∀ c, (f c).query = c.query) :
    Looks (changeParams f : Attempt (Request × E) Unit) := by
  exact Attempt.within_change fun s => ⟨⟨rfl,rfl,rfl⟩,rfl,seenQuery_congr (same _) rfl rfl,rfl,fun _ => same _,.refl s.1.body⟩

theorem looks_materialize {a : Attempt (Request × E) Params}
    (exec : ∀ r e, a.exec (r,e) =
      (.ok r.params.materialize.1,({ r with params := r.params.materialize.2 },e))) : Looks a := by
  rintro ⟨r,e⟩
  have same : r.params.materialize.2.query = r.params.query := by
    unfold ParamCache.materialize
    split <;> rfl
  rw [exec]
  exact ⟨⟨rfl,rfl,rfl⟩,rfl,seenQuery_congr same rfl rfl,rfl,fun _ => same,.refl r.body⟩

theorem queryParams_exec (r : Request) (e : E) :
    queryParams.exec (r,e) = (r.seenQuery,
      match r.params.query, r.seenQuery with
      | none, .ok p => ({ r with params := { r.params with query := some p } },e)
      | _, _ => (r,e)) := by
  rw [queryParams, exec_current_bind]
  unfold seenQuery
  cases stored : r.params.query with
  | some p => rfl
  | none =>
    cases decoded : decodeQuery r.queryString? r.queryEncoding with
    | ok p => rfl
    | error f => rfl

theorem looks_queryParams : Looks (queryParams : Attempt (Request × E) Params) := by
  rintro ⟨r,e⟩
  rw [queryParams_exec]
  cases stored : r.params.query with
  | some p => exact .refl r
  | none =>
    cases seen : r.seenQuery with
    | error f => exact .refl r
    | ok p => exact ⟨⟨rfl,rfl,rfl⟩,rfl,seen.symm,rfl,fun known => by simp [stored] at known,.refl r.body⟩

section Sources
variable [Body.ExternalSources E]

theorem readFormPieces_moves {R : Body.Input × E → Body.Input × E → Prop} (h : Body.Moves R)
    (limit n size : Nat) (pieces : List Octets) (s : Body.Input × E) :
    R s (readFormPieces limit n pieces size s).2 := by
  induction n generalizing size pieces s with
  | zero => exact h.refl s
  | succ n ih =>
    have first := h.read Body.Input.pieceSize s
    unfold readFormPieces
    split
    next failed => rw [failed] at first; exact first
    next ended => rw [ended] at first; exact first
    next more =>
      rw [more] at first
      split
      · exact first
      · exact h.trans first (ih _ _ _)

theorem looks_extractForm : Looks (extractForm : Attempt (Request × E) Params) := by
  refine looks_bind looks_current fun r => looks_unless _ ?_
  apply looks_bind (looks_lift _)
  intro charset
  apply looks_bind looks_openStream
  intro _
  refine looks_bind looks_current fun opened => looks_unless _ ?_
  apply looks_bind (looks_onBody fun s => readFormPieces_moves Body.moves_wire _ _ 0 [] s)
  intro bytes
  split
  · exact looks_pure _
  · exact looks_throw _

theorem looks_extractBody : Looks (extractBody : Attempt (Request × E) Params) := by
  apply looks_bind looks_current
  intro r
  split
  · exact looks_pure _
  · exact looks_unless _ looks_extractForm

theorem looks_bodyParams : Looks (bodyParams : Attempt (Request × E) Params) := by
  apply looks_bind looks_current
  intro r
  split
  · exact looks_pure _
  · refine looks_bind (looks_changeParams fun _ => rfl) ?_
    intro _
    apply looks_bind looks_extractBody
    intro p
    exact looks_bind (looks_changeParams fun _ => rfl) fun _ => looks_pure p

theorem looks_allParams : Looks (allParams : Attempt (Request × E) Params) := by
  apply looks_bind looks_current
  intro r
  split
  · apply looks_bind looks_queryParams
    intro _
    apply looks_bind looks_bodyParams
    intro _
    exact looks_materialize fun _ _ => rfl
  · exact looks_materialize fun _ _ => rfl

end Sources

end Attempts

/-- Between two states neither the stage nor what was computed changed. -/
structure Apart (before after : Request) : Prop where
  stage : SameStage before after
  params : after.params = before.params

namespace Apart

theorem of_eq {before after changed : Request} (same : after = changed) (apart : Apart before changed) :
    Apart before after := by
  rw [same]
  exact apart

theorem seenQuery_eq {before after : Request} (h : Apart before after)
    (encoding : after.queryEncoding = before.queryEncoding) :
    after.seenQuery = before.seenQuery :=
  seenQuery_congr (congrArg ParamCache.query h.params) h.stage.uri encoding

end Apart

/-! ## What an operation with several outcomes may change -/

theorem accept_withQueryEncoding (r : Request) (name : Option String) :
    ∃ queryCharset, Operation.accept r (r.withQueryEncoding name) = { r with queryCharset } := by
  unfold withQueryEncoding
  cases name with
  | none => exact ⟨none,rfl⟩
  | some name =>
    dsimp only
    cases Charset.named name with
    | error f => exact ⟨r.queryCharset,rfl⟩
    | ok charset => exact ⟨some charset,rfl⟩

theorem accept_withEncoding (r : Request) (name : String) :
    ∃ encodingOverride, Operation.accept r (r.withEncoding name) = { r with encodingOverride } := by
  unfold withEncoding
  split
  · exact ⟨r.encodingOverride,rfl⟩
  · cases Charset.named name with
    | error f => exact ⟨r.encodingOverride,rfl⟩
    | ok charset => exact ⟨some name,rfl⟩

theorem accept_startAsync (r : Request) :
    ∃ asyncStarted, Operation.accept r r.startAsync = { r with asyncStarted } := by
  unfold startAsync
  split
  · exact ⟨r.asyncStarted,rfl⟩
  · split
    · exact ⟨r.asyncStarted,rfl⟩
    · exact ⟨true,rfl⟩

theorem applyQueryEncoding_cases (r : Request) (name : String) (value : AttributeValue) :
    ∃ queryCharset, r.applyQueryEncoding name value = { r with queryCharset } := by
  obtain ⟨charset,accepted⟩ := accept_withQueryEncoding r value.text?
  unfold applyQueryEncoding
  split
  · unfold Operation.accept at accepted
    split
    next h => exact ⟨charset,by simpa [h, Except.toOption] using accepted⟩
    · exact ⟨r.queryCharset,rfl⟩
  · exact ⟨r.queryCharset,rfl⟩

theorem findRequestedSession_cases (r : Request) (cookieName parameterName : String) :
    ∃ requestedSession, r.findRequestedSession cookieName parameterName = { r with requestedSession } := by
  unfold findRequestedSession
  split <;> exact ⟨_,rfl⟩

section Environments
variable {E : Type}

theorem setAttribute_cases [AttributeObservers E] (name : String) (value : AttributeValue) (s : Request × E) :
    ∃ queryCharset, (setAttribute name value s).1 =
      { s.1 with queryCharset, attributes := (s.1.attributes.put name (some value)).2 } := by
  obtain ⟨charset,encoded⟩ := applyQueryEncoding_cases s.1 name value
  refine ⟨charset,?_⟩
  unfold setAttribute
  dsimp only
  rw [encoded]
  split <;> rfl

theorem removeAttribute_cases [AttributeObservers E] (name : String) (s : Request × E) :
    ∃ queryCharset, (removeAttribute name s).2.1 =
      { s.1 with queryCharset, attributes := (s.1.attributes.put name none).2 } := by
  unfold removeAttribute
  dsimp only
  split <;> split <;> exact ⟨_,rfl⟩

theorem changeSessionId_cases [SessionStores E] (s : Request × E) :
    ∃ sessions, (changeSessionId s).2.1 = { s.1 with sessions } := by
  have found : ∃ sessions, (session false s).2.1 = { s.1 with sessions } := ⟨_,rfl⟩
  unfold changeSessionId
  cases looked : session false s with
  | mk result after =>
    rw [looked] at found
    match result with
    | .error f => exact found
    | .ok none => exact found
    | .ok (some key) => exact found

theorem login_cases [LoginServices E] (name password : String) (s : Request × E) :
    ∃ authentication, (login name password s).2.1 = { s.1 with authentication } := by
  unfold login
  dsimp only
  split
  · exact ⟨s.1.authentication,rfl⟩
  · exact ⟨s.1.authentication,rfl⟩
  · split
    · exact ⟨s.1.authentication,rfl⟩
    · exact ⟨s.1.authentication,rfl⟩
    next user _ _ => exact ⟨.user user,rfl⟩

theorem commit_cases [SessionStores E] (s : Request × E) :
    ∃ committed, (commit s).1 = { s.1 with committed } := by
  unfold commit
  dsimp only
  split
  · exact ⟨s.1.committed,rfl⟩
  · exact ⟨true,rfl⟩

end Environments

end Request

namespace Operation

open Request

variable {E : Type} [Body.ExternalSources E] [SessionStores E] [LoginServices E] [AttributeObservers E]

def looks : Operation E → Bool
  | readQuery | readForm | readParams | openStream | openReader => true
  | _ => false

theorem looked_of_looks {op : Operation E} (looks : op.looks = true) (s : Request × E) :
    Looked s.1 (op.run s).1 := by
  cases op with
  | readQuery => exact looks_queryParams s
  | readForm => exact looks_bodyParams s
  | readParams => exact looks_allParams s
  | openStream => exact looks_openStream s
  | openReader => exact looks_openReader s
  | _ => cases looks

theorem apart_of_not_looks {op : Operation E} (looks : op.looks = false) (s : Request × E) :
    Apart s.1 (op.run s).1 := by
  rcases s with ⟨r,e⟩
  cases op with
  | readQuery | readForm | readParams | openStream | openReader => cases looks
  | setEncoding name =>
    obtain ⟨_,same⟩ := accept_withEncoding r name
    exact .of_eq same ⟨⟨rfl,rfl,rfl⟩,rfl⟩
  | setQueryEncoding name =>
    obtain ⟨_,same⟩ := accept_withQueryEncoding r name
    exact .of_eq same ⟨⟨rfl,rfl,rfl⟩,rfl⟩
  | startAsync =>
    obtain ⟨_,same⟩ := accept_startAsync r
    exact .of_eq same ⟨⟨rfl,rfl,rfl⟩,rfl⟩
  | setAttribute name value =>
    obtain ⟨_,same⟩ := setAttribute_cases name value (r,e)
    exact .of_eq same ⟨⟨rfl,rfl,Attributes.spaces_put r.attributes name (some value)⟩,rfl⟩
  | removeAttribute name =>
    obtain ⟨_,same⟩ := removeAttribute_cases name (r,e)
    exact .of_eq same ⟨⟨rfl,rfl,Attributes.spaces_put r.attributes name none⟩,rfl⟩
  | clearAttributes => exact ⟨⟨rfl,rfl,Attributes.spaces_clear r.attributes⟩,rfl⟩
  | changeSessionId =>
    obtain ⟨_,same⟩ := changeSessionId_cases (r,e)
    exact .of_eq same ⟨⟨rfl,rfl,rfl⟩,rfl⟩
  | findRequestedSession cookieName parameterName =>
    obtain ⟨_,same⟩ := findRequestedSession_cases r cookieName parameterName
    exact .of_eq same ⟨⟨rfl,rfl,rfl⟩,rfl⟩
  | login name password =>
    obtain ⟨_,same⟩ := login_cases name password (r,e)
    exact .of_eq same ⟨⟨rfl,rfl,rfl⟩,rfl⟩
  | commit =>
    obtain ⟨_,same⟩ := commit_cases (r,e)
    exact .of_eq same ⟨⟨rfl,rfl,rfl⟩,rfl⟩
  | _ => exact ⟨⟨rfl,rfl,rfl⟩,rfl⟩

theorem looked_or_apart (op : Operation E) (s : Request × E) :
    Looked s.1 (op.run s).1 ∨ Apart s.1 (op.run s).1 := by
  cases looks : op.looks with
  | true => exact .inl (looked_of_looks looks s)
  | false => exact .inr (apart_of_not_looks looks s)

theorem run_stage (op : Operation E) (s : Request × E) : SameStage s.1 (op.run s).1 :=
  (op.looked_or_apart s).elim (·.stage) (·.stage)

/-- An operation that leaves the encoding of the query alone changes nothing that the query shows. -/
theorem run_seenQuery (op : Operation E) (s : Request × E)
    (encoding : (op.run s).1.queryEncoding = s.1.queryEncoding) :
    (op.run s).1.seenQuery = s.1.seenQuery :=
  (op.looked_or_apart s).elim (·.seen) (·.seenQuery_eq encoding)

end Operation

end HttpRequest
