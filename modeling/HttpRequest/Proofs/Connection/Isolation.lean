import HttpRequest.Connection
import HttpRequest.Proofs.Dispatch.Interruption
import HttpRequest.Proofs.Request.Metadata
import HttpRequest.Scripted.Collaborators

/-! # Requests on one connection

Between two requests a connection keeps its settings, its ends and the time limit of reads, and nothing
else. The limit is set anew with every source. So what happened before leaves no trace in the next
request: not what handlers did, not how they ended, not the requests that were refused, and not what is
still done with the sources of then.
-/
namespace HttpRequest

open Body Request

theorem Program.frame_settings {E : Type} [ExternalSources E] [SessionStores E] [LoginServices E]
    [AttributeObservers E] : Frame (E := E) (fun _ => True) (fun before after => after.settings = before.settings) where
  refl _ := rfl
  trans _ _ _ first second := second.trans first
  operation op s _ := op.run_settings s
  unmerged _ := rfl
  restored := by
    intro way t before called left found kept
    rw [(t.restore_kept way before left).2, kept, found.kept.2]

namespace Connection

section Idle
variable {E : Type} [ExternalSources E] [SessionStores E] {settings : Settings} {remote localEnd : Option Endpoint}

/-- Between two requests: nothing is left but the settings, the ends and the time limit of reads. -/
def Idle (settings : Settings) (remote localEnd : Option Endpoint) (c : Connection) : Prop :=
  ∃ timeout, c.request = { settings, remote, localEnd, body := .new timeout }

theorem idle_finish (s : Connection × E) :
    Idle s.1.request.settings s.1.request.remote s.1.request.localEnd (finish s).1 :=
  ⟨_,rfl⟩

theorem Idle.finish {c : Connection} (idle : Idle settings remote localEnd c) (e : E) :
    Idle settings remote localEnd (finish (c,e)).1 ∧ (finish (c,e)).2 = e := by
  have left := idle_finish (c,e)
  obtain ⟨timeout,rest⟩ := idle
  constructor
  · rwa [rest] at left
  · unfold Connection.finish
    dsimp only
    rw [rest]
    rfl

/-- All idle connections with these settings and ends take a request in the same way: they refuse it
and leave everything as it is, or else they begin it with the same request. -/
theorem begin_of_idle [UriGrammar] (settings : Settings) (remote localEnd : Option Endpoint) (a : Arriving) (e : E) :
    (∃ f, ∀ c, Idle settings remote localEnd c → ∃ left, Idle settings remote localEnd left ∧
      begin a (c,e) = (.error f,left,e)) ∨
    ∃ r : Request, r.settings = settings ∧ r.body.handle? = a.source.handle? ∧ r.body.watchers = [] ∧
      ∀ c, Idle settings remote localEnd c → ∃ begun, begun.request = r ∧ begin a (c,e) = (.ok (),begun,e) := by
  let start (timeout : Nat) : Request := { settings, remote, localEnd, body := .new timeout }
  have arrives (timeout : Nat) : (start timeout).withMetadata a.method a.target a.version a.headers =
      ((start 0).requestLine a.method a.target a.headers).map
        ((start timeout).withLine a.method a.version a.headers) := by
    have unsecured : (start timeout).secure = (start 0).secure := rfl
    rw [withMetadata_eq, requestLine_congr unsecured]
  cases line : (start 0).requestLine a.method a.target a.headers with
  | error f =>
    refine .inl ⟨f,?_⟩
    intro c idle
    have counted : Idle settings remote localEnd { c with served := c.served + 1 } := idle
    obtain ⟨left,unchanged⟩ := counted.finish e
    obtain ⟨timeout,rest⟩ := idle
    have refused : c.request.withMetadata a.method a.target a.version a.headers = .error f := by
      rw [rest, arrives, line]
      rfl
    refine ⟨_,left,?_⟩
    unfold begin
    simp only [refused]
    exact congrArg (fun e => (Except.error f,_,e)) unchanged
  | ok l =>
    let arrived (timeout : Nat) : Request := (start timeout).withLine a.method a.version a.headers l
    refine .inr ⟨(arrived 0).withSource a.source,rfl,rfl,rfl,?_⟩
    intro c idle
    obtain ⟨timeout,rest⟩ := idle
    have accepted : c.request.withMetadata a.method a.target a.version a.headers = .ok (arrived timeout) := by
      rw [rest, arrives, line]
      rfl
    -- the source brings its own time limit, so that of the connection is forgotten
    have anew : (arrived timeout).withSource a.source = (arrived 0).withSource a.source := rfl
    refine ⟨{ request := (arrived timeout).withSource a.source, served := c.served + 1 },anew,?_⟩
    unfold begin
    simp only [accepted]

end Idle

section Serving
variable {E α : Type} [UriGrammar] [ExternalSources E] [SessionStores E] {a : Arriving} {s : Connection × E}

theorem serve_of_refused {f : Failure} {left : Connection × E} (refused : begin a s = (.error f,left))
    (handler : Request × E → Outcome α × (Request × E)) : serve a handler s = (.failed f,left) := by
  unfold serve
  rw [refused]

theorem serve_of_begun {begun : Connection} {e : E} (accepted : begin a s = (.ok (),begun,e))
    (handler : Request × E → Outcome α × (Request × E)) :
    serve a handler s = ((handler (begun.request,e)).1,
      finish ({ begun with request := (handler (begun.request,e)).2.1 },(handler (begun.request,e)).2.2)) := by
  unfold serve
  rw [accepted]

theorem serve_alike {settings : Settings} {remote localEnd : Option Endpoint} {c₁ c₂ : Connection} {e : E}
    (idle₁ : Idle settings remote localEnd c₁) (idle₂ : Idle settings remote localEnd c₂)
    {handler other : Request × E → Outcome α × (Request × E)}
    (same : ∀ begun, begin a (c₁,e) = (.ok (),begun) →
      handler (begun.1.request,begun.2) = other (begun.1.request,begun.2)) :
    (serve a handler (c₁,e)).1 = (serve a other (c₂,e)).1 ∧
      (serve a handler (c₁,e)).2.2 = (serve a other (c₂,e)).2.2 := by
  rcases begin_of_idle settings remote localEnd a e with ⟨f,refuses⟩ | ⟨r,-,-,-,begins⟩
  · obtain ⟨left₁,-,refused₁⟩ := refuses c₁ idle₁
    obtain ⟨left₂,-,refused₂⟩ := refuses c₂ idle₂
    rw [serve_of_refused refused₁, serve_of_refused refused₂]
    exact ⟨rfl,rfl⟩
  · obtain ⟨begun₁,rfl,accepted₁⟩ := begins c₁ idle₁
    obtain ⟨begun₂,begunAlike,accepted₂⟩ := begins c₂ idle₂
    rw [serve_of_begun accepted₁, serve_of_begun accepted₂, begunAlike, same _ accepted₁]
    exact ⟨rfl,rfl⟩

end Serving

/-- What happens on a connection: a request is served, somebody acts on a source from outside, the ends
of the connection become known, or something else in the environment changes. -/
inductive Event (E : Type) where
  | visit (a : Arriving) (p : Program E)
  | outside (act : OutsideAct)
  | ends (remote localEnd : Option Endpoint)
  | elsewhere (change : E → E)

section History
variable {E : Type} [UriGrammar] [ExternalSources E] [SessionStores E] [LoginServices E] [AttributeObservers E]
  [ResponseControl E] {settings : Settings}

def Event.run : Event E → Connection × E → Connection × E
  | visit a p, s => (serve a p.run s).2
  | outside act, (c, e) => ({ c with request := { c.request with body := act.apply c.request.body } }, e)
  | ends remote localEnd, (c, e) => (c.withEnds remote localEnd, e)
  | elsewhere change, (c, e) => (c, change e)

/-- A connection with a history, and the environment then. -/
def past (settings : Settings) (history : List (Event E)) (e : E) : Connection × E :=
  history.foldl (fun s event => event.run s) (new settings,e)

theorem idle_serve (a : Arriving) (p : Program E) {remote localEnd : Option Endpoint} {c : Connection}
    (idle : Idle settings remote localEnd c) (e : E) :
    ∃ remote localEnd, Idle settings remote localEnd (serve a p.run (c,e)).2.1 := by
  rcases begin_of_idle settings remote localEnd a e with ⟨f,refuses⟩ | ⟨r,kept,-,-,begins⟩
  · obtain ⟨left,rests,refused⟩ := refuses c idle
    rw [serve_of_refused refused]
    exact ⟨remote,localEnd,rests⟩
  · obtain ⟨begun,rfl,accepted⟩ := begins c idle
    have stays : (p.run (begun.request,e)).2.1.settings = settings :=
      (Program.frame_settings.run (Program.stays_any p _)).trans kept
    have rests := idle_finish ({ begun with request := (p.run (begun.request,e)).2.1 },(p.run (begun.request,e)).2.2)
    rw [serve_of_begun accepted]
    exact ⟨_,_,stays ▸ rests⟩

theorem Event.run_idle (event : Event E) {s : Connection × E}
    (before : ∃ remote localEnd, Idle settings remote localEnd s.1) :
    ∃ remote localEnd, Idle settings remote localEnd (event.run s).1 := by
  obtain ⟨remote,localEnd,idle⟩ := before
  obtain ⟨c,e⟩ := s
  cases event with
  | visit a p => exact idle_serve a p idle e
  | outside act =>
    obtain ⟨timeout,rest⟩ := idle
    have free : (Input.new timeout).Apart (fun _ => True) := Input.apart_new timeout
    have unmoved : act.apply (.new timeout) = .new timeout := free.unmoved trivial
    refine ⟨remote,localEnd,timeout,?_⟩
    unfold Event.run
    dsimp only
    rw [rest, unmoved]
  | ends remote localEnd =>
    obtain ⟨timeout,rest⟩ := idle
    refine ⟨remote,localEnd,timeout,?_⟩
    show { c.request with remote, localEnd } = _
    rw [rest]
  | elsewhere change => exact ⟨remote,localEnd,idle⟩

theorem idle_past (settings : Settings) (history : List (Event E)) (e : E) :
    Idle settings (past settings history e).1.request.remote (past settings history e).1.request.localEnd
      (past settings history e).1 := by
  have fold (history : List (Event E)) (s : Connection × E) (before : ∃ remote localEnd, Idle settings remote localEnd s.1) :
      ∃ remote localEnd, Idle settings remote localEnd (history.foldl (fun s event => event.run s) s).1 := by
    induction history generalizing s with
    | nil => exact before
    | cons event history ih => exact ih _ (event.run_idle before)
  obtain ⟨remote,localEnd,timeout,rest⟩ := fold history (new settings,e) ⟨none,none,settings.readTimeout,rfl⟩
  refine ⟨timeout,?_⟩
  unfold past
  rw [rest]

/-- Nobody who handles a request can tell on which of two connections it came, and nobody can tell from
the environment afterwards. Both take it, or refuse it for the same reason; both hand the same request
to its handler, and every handler ends in the same way. A program stands in the same states at every
depth, whoever interrupts it on the one connection and on the other. -/
structure Alike (a : Arriving) (e : E) (c₁ c₂ : Connection) (q₁ q₂ : Program E) : Prop where
  answer : (begin a (c₁,e)).1 = (begin a (c₂,e)).1
  begun : ∀ s₁ s₂, begin a (c₁,e) = (.ok (),s₁) → begin a (c₂,e) = (.ok (),s₂) →
    (s₁.1.request,s₁.2) = (s₂.1.request,s₂.2) ∧ ∀ nest here,
      q₁.Reaches (fun _ => True) (s₁.1.request,s₁.2) nest here ↔
        q₂.Reaches (fun _ => True) (s₂.1.request,s₂.2) nest here
  served : (serve a q₁.run (c₁,e)).1 = (serve a q₂.run (c₂,e)).1 ∧
    (serve a q₁.run (c₁,e)).2.2 = (serve a q₂.run (c₂,e)).2.2
  handled : ∀ {α : Type} (handler : Request × E → Outcome α × (Request × E)),
    (serve a handler (c₁,e)).1 = (serve a handler (c₂,e)).1 ∧
      (serve a handler (c₁,e)).2.2 = (serve a handler (c₂,e)).2.2

theorem alike_of_idle {remote localEnd : Option Endpoint} {c₁ c₂ : Connection} {a : Arriving} {e : E}
    {strange : Handle → Prop} {p q₁ q₂ : Program E} (idle₁ : Idle settings remote localEnd c₁)
    (idle₂ : Idle settings remote localEnd c₂) (fresh : ∀ h ∈ a.source.handle?, ¬strange h)
    (own : ∀ s, begin a (c₁,e) = (.ok (),s) → p.Stays (Operation.Own strange) (s.1.request,s.2))
    (first : p.Interrupted strange q₁) (second : p.Interrupted strange q₂) : Alike a e c₁ c₂ q₁ q₂ := by
  rcases begin_of_idle settings remote localEnd a e with ⟨f,refuses⟩ | ⟨r,-,wire,unwatched,begins⟩
  · obtain ⟨left₁,-,refused₁⟩ := refuses c₁ idle₁
    obtain ⟨left₂,-,refused₂⟩ := refuses c₂ idle₂
    have never {s : Connection × E} : begin a (c₁,e) ≠ (.ok (),s) := by
      rw [refused₁]
      intro accepted
      cases accepted
    refine ⟨by rw [refused₁, refused₂],?_,?_,fun handler => serve_alike idle₁ idle₂ fun _ _ => rfl⟩
    · intro s₁ s₂ accepted
      exact absurd accepted never
    · apply serve_alike idle₁ idle₂
      intro begun accepted
      exact absurd accepted never
  · obtain ⟨begun₁,rfl,accepted₁⟩ := begins c₁ idle₁
    obtain ⟨begun₂,same,accepted₂⟩ := begins c₂ idle₂
    have stays := own _ accepted₁
    have apart : begun₁.request.body.Apart strange := ⟨wire ▸ fresh,by rw [unwatched]; simp⟩
    refine ⟨by rw [accepted₁, accepted₂],?_,?_,fun handler => serve_alike idle₁ idle₂ fun _ _ => rfl⟩
    · intro s₁ s₂ again₁ again₂
      rw [accepted₁] at again₁
      rw [accepted₂] at again₂
      cases again₁
      cases again₂
      dsimp only
      rw [same]
      refine ⟨rfl,?_⟩
      intro nest here
      exact (first.reaches_iff stays apart).trans (second.reaches_iff stays apart).symm
    · apply serve_alike idle₁ idle₂
      intro begun again
      rw [accepted₁] at again
      cases again
      rw [first.run_eq stays apart, second.run_eq stays apart]

/-- Two connections with the same settings and ends are alike for the next request, whatever their
histories are: requests taken and refused, handlers that left anything behind and ended in any way.
Who still holds a source of then may go on with it, also while the next request is handled, as long as
that has a source of its own and its handler does not get hold of one of theirs. What the collaborators
remember is theirs, so they are asked in the same environment on both. -/
theorem requests_isolated (settings : Settings) (history other : List (Event E)) (e₁ e₂ e : E) (a : Arriving)
    {strange : Handle → Prop} {p q₁ q₂ : Program E}
    (remote : (past settings history e₁).1.request.remote = (past settings other e₂).1.request.remote)
    (localEnd : (past settings history e₁).1.request.localEnd = (past settings other e₂).1.request.localEnd)
    (fresh : ∀ h ∈ a.source.handle?, ¬strange h)
    (own : ∀ s, begin a ((past settings history e₁).1,e) = (.ok (),s) →
      p.Stays (Operation.Own strange) (s.1.request,s.2))
    (first : p.Interrupted strange q₁) (second : p.Interrupted strange q₂) :
    Alike a e (past settings history e₁).1 (past settings other e₂).1 q₁ q₂ := by
  have idle₁ := idle_past settings history e₁
  have idle₂ := idle_past settings other e₂
  rw [← remote, ← localEnd] at idle₂
  exact alike_of_idle idle₁ idle₂ fresh own first second

end History

open CommonGrammar

/-- A request whose handler leaves an attribute, a reader and a user behind and panics, one that is
refused, and a feeder that goes on sending. -/
def busyPast : List (Event (Scripted.Environment Unit)) :=
  [.visit { method := "POST", target := "/first?a=1", source := .channel { id := ⟨0⟩ } }
     (.perform (.setAttribute "seen" (.text "first")) fun _ _ => .perform .openReader fun _ _ =>
       .perform (.setAuthentication (.user { name := "alice", scheme := "BASIC" })) fun _ _ => .done (.panicked "gone")),
   .visit { method := "GET", target := "", source := .memory none } (.done (.ok ())),
   .outside (.feed ⟨0⟩ (.chunk (octetsOf "late")))]

def busyFeeder (h : Handle) : Prop :=
  h = .channel ⟨0⟩

def nextVisit : Arriving :=
  { method := "GET", target := "/second", source := .channel { id := ⟨1⟩ } }

def suspicious : Program (Scripted.Environment Unit) :=
  .perform .readParams fun _ after =>
    .done (if (after.1.attribute? "seen").isSome then .panicked "seen" else .ok ())

def suspiciousFed : Program (Scripted.Environment Unit) :=
  .perform (.outside (.feed ⟨0⟩ .finish)) fun _ _ => suspicious

/-- After a busy past a request is served as on a new connection, also while the old feeder ends. -/
theorem busyPast_isolated : ∃ (e : Scripted.Environment Unit) (busy quiet : Connection × Scripted.Environment Unit),
    busy = past {} busyPast e ∧ quiet = past {} [] e ∧ busy.1.request.remote = quiet.1.request.remote ∧
    busy.1.request.localEnd = quiet.1.request.localEnd ∧ (∀ h ∈ nextVisit.source.handle?, ¬busyFeeder h) ∧
    (∀ s, begin nextVisit (busy.1,e) = (.ok (),s) → suspicious.Stays (Operation.Own busyFeeder) (s.1.request,s.2)) ∧
    suspicious.Interrupted busyFeeder suspiciousFed ∧ suspicious.Interrupted busyFeeder suspicious ∧
    (begin nextVisit (busy.1,e)).1.toBool = true ∧ Alike nextVisit e busy.1 quiet.1 suspiciousFed suspicious := by
  let e : Scripted.Environment Unit := { kept := () }
  have remote : (past {} busyPast e).1.request.remote = none := by decide +kernel
  have localEnd : (past {} busyPast e).1.request.localEnd = none := by decide +kernel
  have accepted : (begin nextVisit ((past {} busyPast e).1,e)).1.toBool = true := by decide +kernel
  have fresh : ∀ h ∈ nextVisit.source.handle?, ¬busyFeeder h := by
    rintro h ⟨⟩ ⟨⟩
  have own : ∀ s, begin nextVisit ((past {} busyPast e).1,e) = (.ok (),s) →
      suspicious.Stays (Operation.Own busyFeeder) (s.1.request,s.2) := fun _ _ => ⟨trivial,trivial⟩
  have late : busyFeeder (.channel ⟨0⟩) := rfl
  have fed : suspicious.Interrupted busyFeeder suspiciousFed := .outside (.feed ⟨0⟩ .finish) late fun _ _ => .refl suspicious
  exact ⟨e,_,_,rfl,rfl,remote,localEnd,fresh,own,fed,.refl suspicious,accepted,
    requests_isolated {} busyPast [] e e e nextVisit remote localEnd fresh own fed (.refl suspicious)⟩

end Connection

end HttpRequest
