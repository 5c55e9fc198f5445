import HttpRequest.Dispatch.Nested
import HttpRequest.Proofs.Request.Operation

/-! # Handlers as programs

A handler does operations on its request and dispatches to further handlers, each step depending on
all that happened before, and ends in one of the three ways. So a handler is a finite tree, and what
all handlers do is shown by induction on it. A moment of a run is a state between two steps, together
with the dispatches that are going on then.
-/
namespace HttpRequest

inductive DispatchWay where
  | inclusion
  | forward
  | error
deriving DecidableEq, Repr

namespace DispatchTarget

section Run
variable {E : Type} [ResponseControl E] (t : DispatchTarget)

def run : DispatchWay → Handler E → Request × E → Outcome Unit × (Request × E)
  | .inclusion => t.runInclude
  | .forward => t.runForward
  | .error => t.runError

/-- What the handler of an include finds when it is called, or why it is not called. -/
def enterInclude (s : Request × E) : Except Failure (Request × E) :=
  match s.1.beginInclude t with
  | (.ok _, r) => .ok (r, ResponseControl.markIncluding s.2)
  | (.error f, _) => .error f

def enterForward (kind : DispatchKind) (s : Request × E) : Except Failure (Request × E) :=
  match ResponseControl.resetForForward s.2 with
  | (.error f, _) => .error f
  | (.ok _, e) =>
    match s.1.beginForward kind t with
    | (.ok _, r) => .ok (r, e)
    | (.error f, _) => .error f

def enter : DispatchWay → Request × E → Except Failure (Request × E)
  | .inclusion => t.enterInclude
  | .forward => t.enterForward .forward
  | .error => t.enterForward .error

/-- What an include makes of the result of its handler, given the request before. -/
def leaveInclude (before : Request) (result : Outcome Unit × (Request × E)) :
    Outcome Unit × (Request × E) :=
  let (outcome, r, e) := result
  (outcome, r.endInclude before.includeSnapshot t.isPath, ResponseControl.markIncluded e)

def leaveForward (before : Request) (result : Outcome Unit × (Request × E)) :
    Outcome Unit × (Request × E) :=
  let (outcome, r, e) := result
  let (outcome, e) := t.closeAfter outcome r e
  (outcome, r.endForward before.forwardSnapshot t.isPath, e)

def leave : DispatchWay → Request → Outcome Unit × (Request × E) → Outcome Unit × (Request × E)
  | .inclusion => t.leaveInclude
  | .forward | .error => t.leaveForward

variable {t}

theorem enterInclude_eq_ok_iff {s called : Request × E} :
    t.enterInclude s = .ok called ↔ (s.1.beginInclude t).1 = .ok () ∧
      called = ((s.1.beginInclude t).2,ResponseControl.markIncluding s.2) := by
  unfold enterInclude
  generalize s.1.beginInclude t = entry
  obtain ⟨result,r⟩ := entry
  cases result with
  | error f => simp
  | ok _ => simp [eq_comm]

theorem enterForward_eq_ok_iff {kind : DispatchKind} {s called : Request × E} :
    t.enterForward kind s = .ok called ↔ ∃ e, ResponseControl.resetForForward s.2 = (.ok (),e) ∧
      (s.1.beginForward kind t).1 = .ok () ∧ called = ((s.1.beginForward kind t).2,e) := by
  unfold enterForward
  generalize ResponseControl.resetForForward s.2 = reset
  generalize s.1.beginForward kind t = entry
  obtain ⟨refused | _,e⟩ := reset
  · simp
  · obtain ⟨result,r⟩ := entry
    cases result with
    | error f => simp
    | ok _ => simp [eq_comm]

theorem runInclude_of_enter {s called : Request × E} (h : t.enterInclude s = .ok called)
    (handler : Handler E) : t.runInclude handler s = t.leaveInclude s.1 (handler t.text called) := by
  obtain ⟨begun,rfl⟩ := enterInclude_eq_ok_iff.mp h
  unfold runInclude
  generalize s.1.beginInclude t = entry at begun
  obtain ⟨result,r⟩ := entry
  cases begun
  rfl

theorem runForwardAs_of_enter {kind : DispatchKind} {s called : Request × E}
    (h : t.enterForward kind s = .ok called) (handler : Handler E) :
    t.runForwardAs kind handler s = t.leaveForward s.1 (handler t.text called) := by
  obtain ⟨e,reset,begun,rfl⟩ := enterForward_eq_ok_iff.mp h
  unfold runForwardAs
  simp only [reset]
  generalize s.1.beginForward kind t = entry at begun
  obtain ⟨result,r⟩ := entry
  cases begun
  rfl

theorem run_of_enter {way : DispatchWay} {s called : Request × E} (h : t.enter way s = .ok called)
    (handler : Handler E) : t.run way handler s = t.leave way s.1 (handler t.text called) := by
  cases way with
  | inclusion => exact runInclude_of_enter h handler
  | forward | error => exact runForwardAs_of_enter h handler

end Run

end DispatchTarget

/-- What a handler does: operations and dispatches, each chosen by what happened before, and how it
ends. What comes next is chosen with the states before and after the step in view. -/
inductive Program (E : Type) where
  | done (outcome : Outcome Unit)
  | perform (op : Operation E) (next : (before after : Request × E) → Program E)
  | dispatch (way : DispatchWay) (t : DispatchTarget) (handler : String → Program E)
      (next : Outcome Unit → (before after : Request × E) → Program E)

/-- A dispatch that is going on. -/
structure Dispatched where
  way : DispatchWay
  target : DispatchTarget

namespace Program

variable {E : Type} [Body.ExternalSources E] [SessionStores E] [LoginServices E]
  [AttributeObservers E] [ResponseControl E]

def run : Program E → Request × E → Outcome Unit × (Request × E)
  | done outcome, s => (outcome, s)
  | perform op next, s => (next s (op.run s)).run (op.run s)
  | dispatch way t handler next, s =>
    let (outcome, after) := t.run way (fun text s => (handler text).run s) s
    (next outcome s after).run after

def handling (programs : String → Program E) : Handler E :=
  fun text s => (programs text).run s

/-- While a program runs from a first state, the dispatches of a nest are going on, the outermost
first, and the innermost handler stands in a last state. On the way there the handlers of the nest
stood in the states that were passed; the handlers of dispatches that are over do not count. -/
inductive Moment :
    Program E → Request × E → List Dispatched → List (Request × E) → Request × E → Prop
  | now (p : Program E) (s : Request × E) : Moment p s [] [s] s
  | performed {op : Operation E} {next : Request × E → Request × E → Program E} {s here : Request × E}
      {nest : List Dispatched} {passed : List (Request × E)}
      (later : Moment (next s (op.run s)) (op.run s) nest passed here) :
      Moment (perform op next) s nest (s :: passed) here
  | within {way : DispatchWay} {t : DispatchTarget} {handler : String → Program E}
      {next : Outcome Unit → Request × E → Request × E → Program E} {s called here : Request × E}
      {nest : List Dispatched} {passed : List (Request × E)} (entered : t.enter way s = .ok called)
      (inside : Moment (handler t.text) called nest passed here) :
      Moment (dispatch way t handler next) s (⟨way, t⟩ :: nest) (s :: passed) here
  | returned {way : DispatchWay} {t : DispatchTarget} {handler : String → Program E}
      {next : Outcome Unit → Request × E → Request × E → Program E} {s after here : Request × E}
      {outcome : Outcome Unit} {nest : List Dispatched} {passed : List (Request × E)}
      (left : t.run way (handling handler) s = (outcome, after))
      (later : Moment (next outcome s after) after nest passed here) :
      Moment (dispatch way t handler next) s nest (s :: passed) here

theorem Moment.first_mem {p : Program E} {s here : Request × E} {nest : List Dispatched}
    {passed : List (Request × E)} (m : p.Moment s nest passed here) : s ∈ passed := by
  cases m <;> simp

end Program

end HttpRequest
