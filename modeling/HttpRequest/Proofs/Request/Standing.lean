import HttpRequest.Proofs.Request.Operation

/-! # The standing of a request

The settings, the ends of the connection, the paths by which a request is handled and its attributes
are changed by few operations, each of which says what it changes; all others leave them alone. No
operation forgets the parameters of the query once they are computed, and only two operations can put
another source in the place of the one that the body is read from.
-/
namespace HttpRequest

structure Standing where
  settings : Settings
  remote : Option Endpoint
  localEnd : Option Endpoint
  contextPath : Option String
  handlerPath : Option String
  pathInfo : Option String
  mapping : Option Route
  attributes : Attributes

namespace Request

def standing (r : Request) : Standing where
  settings := r.settings
  remote := r.remote
  localEnd := r.localEnd
  contextPath := r.contextPath
  handlerPath := r.handlerPath
  pathInfo := r.pathInfo
  mapping := r.mapping
  attributes := r.attributes

theorem Looked.standing {before after : Request} (looked : Looked before after) :
    after.standing = before.standing := by
  rw [looked.same]
  rfl

end Request

namespace Operation

open Request

variable {E : Type}

def change : Operation E → Standing → Standing
  | setContextPath path, k => { k with contextPath := path }
  | setHandlerPath path, k => { k with handlerPath := path }
  | setPathInfo path, k => { k with pathInfo := path }
  | setMapping route, k => { k with mapping := route }
  | setEnds remote localEnd, k => { k with remote, localEnd }
  | setAttribute name value, k => { k with attributes := (k.attributes.put name (some value)).2 }
  | removeAttribute name, k => { k with attributes := (k.attributes.put name none).2 }
  | clearAttributes, k => { k with attributes := k.attributes.clear.2 }
  | _, k => k

def mayRewire : Operation E → Bool
  | setSource _ | useBody _ => true
  | _ => false

variable [Body.ExternalSources E] [SessionStores E] [LoginServices E] [AttributeObservers E]

theorem run_cases (op : Operation E) (s : Request × E) :
    (op.run s).1.standing = op.change s.1.standing ∧
      (op.mayRewire = false → Body.Input.SameWire s.1.body (op.run s).1.body) := by
  obtain ⟨r,e⟩ := s
  have looked {c : Prop} {after : Request} (h : Looked r after) :
      after.standing = r.standing ∧ (c → Body.Input.SameWire r.body after.body) := ⟨h.standing,fun _ => h.wire⟩
  have kept {c : Prop} {after changed : Request} {k : Standing} (same : after = changed)
      (standing : changed.standing = k) (body : changed.body = r.body) :
      after.standing = k ∧ (c → Body.Input.SameWire r.body after.body) := by
    rw [same]
    exact ⟨standing,fun _ => body ▸ .refl r.body⟩
  cases op with
  | setSource source => exact ⟨rfl,fun fixed => by cases fixed⟩
  | useBody change => exact ⟨rfl,fun fixed => by cases fixed⟩
  | readQuery => exact looked (looks_queryParams (r,e))
  | readForm => exact looked (looks_bodyParams (r,e))
  | readParams => exact looked (looks_allParams (r,e))
  | openStream => exact looked (looks_openStream (r,e))
  | openReader => exact looked (looks_openReader (r,e))
  | setListener l =>
    refine ⟨rfl,fun _ => ?_⟩
    show Body.Input.SameWire r.body ((r.body.setListener l).toOption.getD r.body)
    cases set : r.body.setListener l with
    | error f => exact .refl r.body
    | ok body => exact (Body.Input.setListener_quiet set).wire
  | setEncoding name =>
    obtain ⟨_,same⟩ := accept_withEncoding r name
    exact kept same rfl rfl
  | setQueryEncoding name =>
    obtain ⟨_,same⟩ := accept_withQueryEncoding r name
    exact kept same rfl rfl
  | startAsync =>
    obtain ⟨_,same⟩ := accept_startAsync r
    exact kept same rfl rfl
  | setAttribute name value =>
    obtain ⟨_,same⟩ := setAttribute_cases name value (r,e)
    exact kept same rfl rfl
  | removeAttribute name =>
    obtain ⟨_,same⟩ := removeAttribute_cases name (r,e)
    exact kept same rfl rfl
  | changeSessionId =>
    obtain ⟨_,same⟩ := changeSessionId_cases (r,e)
    exact kept same rfl rfl
  | findRequestedSession cookieName parameterName =>
    obtain ⟨_,same⟩ := findRequestedSession_cases r cookieName parameterName
    exact kept same rfl rfl
  | login name password =>
    obtain ⟨_,same⟩ := login_cases name password (r,e)
    exact kept same rfl rfl
  | commit =>
    obtain ⟨_,same⟩ := commit_cases (r,e)
    exact kept same rfl rfl
  | _ => exact kept rfl rfl rfl

theorem run_standing (op : Operation E) (s : Request × E) : (op.run s).1.standing = op.change s.1.standing :=
  (op.run_cases s).1

theorem run_wire {op : Operation E} (fixed : op.mayRewire = false) (s : Request × E) :
    Body.Input.SameWire s.1.body (op.run s).1.body :=
  (op.run_cases s).2 fixed

theorem run_settings (op : Operation E) (s : Request × E) : (op.run s).1.settings = s.1.settings := by
  have changed := congrArg Standing.settings (op.run_standing s)
  cases op <;> exact changed

theorem run_computed (op : Operation E) (s : Request × E) (uncomputed : (op.run s).1.params.query = none) :
    s.1.params.query = none := by
  have kept := (op.looked_or_apart s).elim (·.computed) fun apart _ => congrArg ParamCache.query apart.params
  cases query : s.1.params.query with
  | none => rfl
  | some q =>
    rw [kept (by simp [query]), query] at uncomputed
    cases uncomputed

end Operation

end HttpRequest
