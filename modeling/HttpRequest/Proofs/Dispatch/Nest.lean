import HttpRequest.Proofs.Dispatch.Entry

/-! # Nests of dispatches

Inside a nest a handler finds the request as the dispatches around it have left it, one after another.
What holds there is followed from the outermost dispatch inwards: a relation that the operations keep,
and that a dispatch keeps as a whole when its handler does, holds between any two states of the same
handler, so that only the entries of the dispatches that are going on remain to be looked at.
-/
namespace HttpRequest

def Request.unmerged (r : Request) : Request :=
  { r with params := r.params.restoreQuery r.params.query }

/-- A dispatch that is going on, and what it found. -/
structure Entered (E : Type) extends Dispatched where
  before : Request × E

namespace DispatchTarget

open Request

variable {E : Type} [ResponseControl E] {t : DispatchTarget}

/-- The request after a dispatch, given the one before it and the one that its handler left. -/
def restore (t : DispatchTarget) : DispatchWay → (before left : Request) → Request
  | .inclusion, before, left => left.endInclude before.includeSnapshot t.isPath
  | .forward, before, left | .error, before, left => left.endForward before.forwardSnapshot t.isPath

theorem leave_request (way : DispatchWay) (before : Request) (result : Outcome Unit × (Request × E)) :
    (t.leave way before result).2.1 = t.restore way before result.2.1 := by
  cases way <;> rfl

theorem restore_kept (t : DispatchTarget) (way : DispatchWay) (before left : Request) :
    (t.restore way before left).body = left.body ∧ (t.restore way before left).settings = left.settings := by
  cases way <;> cases t <;> exact ⟨rfl,rfl⟩

theorem endInclude_of_error {r left : Request} {f : Failure} (begun : r.beginInclude t = (.error f,left)) :
    left.endInclude r.includeSnapshot t.isPath = r.unmerged := by
  cases t with
  | named name => cases begun
  | path uri contextPath pathInContext =>
    unfold beginInclude at begun
    dsimp only at begun
    split at begun
    · cases begun
    · split at begun
      · cases begun
      · cases begun
        rfl

theorem endForward_of_error {r left : Request} {kind : DispatchKind} {f : Failure}
    (begun : r.beginForward kind t = (.error f,left)) :
    left.endForward r.forwardSnapshot false = r.unmerged := by
  have moved {base : Request} {uri : Uri} {contextPath pathInContext : String} {g : Failure}
      (failed : base.moveAndMerge uri contextPath pathInContext = (.error g,left)) :
      left = base.moveTo uri contextPath pathInContext := by
    unfold moveAndMerge at failed
    dsimp only at failed
    split at failed
    · cases failed
    · split at failed
      · cases failed
        rfl
      · split at failed <;> cases failed
  cases t with
  | named name => cases begun
  | path uri contextPath pathInContext =>
    unfold beginForward at begun
    dsimp only at begun
    split at begun
    · cases begun
    next failed =>
      split at begun
      · cases begun
      · cases begun
        rw [moved failed]
        rfl

theorem run_of_not_entered {way : DispatchWay} {s : Request × E} {f : Failure} (h : t.enter way s = .error f) :
    ∃ after : Request × E, (∀ handler : Handler E, t.run way handler s = (.failed f,after)) ∧
      (after.1 = s.1 ∨ after.1 = s.1.unmerged) := by
  have forwarded (kind : DispatchKind) (h : t.enterForward kind s = .error f) :
      ∃ after : Request × E, (∀ handler : Handler E, t.runForwardAs kind handler s = (.failed f,after)) ∧
        (after.1 = s.1 ∨ after.1 = s.1.unmerged) := by
    unfold enterForward at h
    unfold runForwardAs
    cases reset : ResponseControl.resetForForward s.2 with
    | mk result e =>
      rw [reset] at h
      cases result with
      | error g =>
        cases h
        exact ⟨(s.1,e),fun _ => by simp only [reset],.inl rfl⟩
      | ok _ =>
        cases begun : s.1.beginForward kind t with
        | mk result left =>
          simp only [begun] at h
          cases result with
          | ok _ => cases h
          | error g =>
            cases h
            exact ⟨(left.endForward s.1.forwardSnapshot false,e),fun _ => by simp only [reset, begun],
              .inr (endForward_of_error begun)⟩
  cases way with
  | inclusion =>
    unfold enter enterInclude at h
    cases begun : s.1.beginInclude t with
    | mk result left =>
      simp only [begun] at h
      cases result with
      | ok _ => cases h
      | error g =>
        cases h
        refine ⟨(left.endInclude s.1.includeSnapshot t.isPath,
          ResponseControl.markIncluded (ResponseControl.markIncluding s.2)),fun _ => ?_,.inr (endInclude_of_error begun)⟩
        simp only [run, runInclude, begun]
  | forward => exact forwarded .forward h
  | error => exact forwarded .error h

/-- Of its handler a dispatch sees only what it does in the state of the entry. -/
theorem run_congr {way : DispatchWay} {s : Request × E} {handler other : Handler E}
    (same : ∀ called, t.enter way s = .ok called → handler t.text called = other t.text called) :
    t.run way handler s = t.run way other s := by
  cases entered : t.enter way s with
  | ok called => rw [run_of_enter entered, run_of_enter entered, same called entered]
  | error f =>
    obtain ⟨after,ends,-⟩ := run_of_not_entered entered
    rw [ends handler, ends other]

end DispatchTarget

open Request DispatchTarget

namespace Program

variable {E : Type} [Body.ExternalSources E] [SessionStores E] [LoginServices E]
  [AttributeObservers E] [ResponseControl E] {allowed : Operation E → Prop} {R : Request → Request → Prop}

/-- Nothing but what is allowed is done while the program runs from a state. -/
def Stays (allowed : Operation E → Prop) : Program E → Request × E → Prop
  | done _, _ => True
  | perform op next, s => allowed op ∧ (next s (op.run s)).Stays allowed (op.run s)
  | dispatch way t handler next, s =>
    (∀ called, t.enter way s = .ok called → (handler t.text).Stays allowed called) ∧
      (next (t.run way (handling handler) s).1 s (t.run way (handling handler) s).2).Stays allowed
        (t.run way (handling handler) s).2

/-- While a program runs from a first state, nothing but what is allowed is done until the innermost
handler of a nest, the outermost dispatch first, stands in a last state. -/
inductive Reaches (allowed : Operation E → Prop) :
    Program E → Request × E → List (Entered E) → Request × E → Prop
  | now (p : Program E) (s : Request × E) : Reaches allowed p s [] s
  | performed {op : Operation E} {next : Request × E → Request × E → Program E} {s here : Request × E}
      {nest : List (Entered E)} (fine : allowed op)
      (later : Reaches allowed (next s (op.run s)) (op.run s) nest here) :
      Reaches allowed (perform op next) s nest here
  | within {way : DispatchWay} {t : DispatchTarget} {handler : String → Program E}
      {next : Outcome Unit → Request × E → Request × E → Program E} {s called here : Request × E}
      {nest : List (Entered E)} (entered : t.enter way s = .ok called)
      (inside : Reaches allowed (handler t.text) called nest here) :
      Reaches allowed (dispatch way t handler next) s (⟨⟨way,t⟩,s⟩ :: nest) here
  | returned {way : DispatchWay} {t : DispatchTarget} {handler : String → Program E}
      {next : Outcome Unit → Request × E → Request × E → Program E} {s after here : Request × E}
      {outcome : Outcome Unit} {nest : List (Entered E)}
      (left : t.run way (handling handler) s = (outcome,after))
      (fine : ∀ called, t.enter way s = .ok called → (handler t.text).Stays allowed called)
      (later : Reaches allowed (next outcome s after) after nest here) :
      Reaches allowed (dispatch way t handler next) s nest here

variable {s here : Request × E} {nest : List (Entered E)}

theorem run_dispatch (way : DispatchWay) (t : DispatchTarget) (handler : String → Program E)
    (next : Outcome Unit → Request × E → Request × E → Program E) (s : Request × E) :
    (dispatch way t handler next).run s =
      (next (t.run way (handling handler) s).1 s (t.run way (handling handler) s).2).run
        (t.run way (handling handler) s).2 := rfl

theorem reaches_perform_iff {op : Operation E} {next : Request × E → Request × E → Program E} :
    (perform op next).Reaches allowed s nest here ↔
      (nest = [] ∧ here = s) ∨ (allowed op ∧ (next s (op.run s)).Reaches allowed (op.run s) nest here) := by
  constructor
  · intro m
    cases m with
    | now => exact .inl ⟨rfl,rfl⟩
    | performed fine later => exact .inr ⟨fine,later⟩
  · rintro (⟨rfl,rfl⟩ | ⟨fine,later⟩)
    · exact .now _ _
    · exact .performed fine later

theorem reaches_dispatch_iff {way : DispatchWay} {t : DispatchTarget} {handler : String → Program E}
    {next : Outcome Unit → Request × E → Request × E → Program E} :
    (dispatch way t handler next).Reaches allowed s nest here ↔
      (nest = [] ∧ here = s) ∨
      (∃ called inner, t.enter way s = .ok called ∧ nest = ⟨⟨way,t⟩,s⟩ :: inner ∧
        (handler t.text).Reaches allowed called inner here) ∨
      ((∀ called, t.enter way s = .ok called → (handler t.text).Stays allowed called) ∧
        (next (t.run way (handling handler) s).1 s (t.run way (handling handler) s).2).Reaches allowed
          (t.run way (handling handler) s).2 nest here) := by
  constructor
  · intro m
    cases m with
    | now => exact .inl ⟨rfl,rfl⟩
    | within entered inside => exact .inr (.inl ⟨_,_,entered,rfl,inside⟩)
    | returned left fine later => exact .inr (.inr ⟨fine,left ▸ later⟩)
  · rintro (⟨rfl,rfl⟩ | ⟨called,inner,entered,rfl,inside⟩ | ⟨fine,later⟩)
    · exact .now _ _
    · exact .within entered inside
    · exact .returned rfl fine later

/-- A relation between an earlier and a later state that no allowed operation breaks, and no dispatch
whose handler keeps it. -/
structure Frame (allowed : Operation E → Prop) (R : Request → Request → Prop) : Prop where
  refl : ∀ r, R r r
  trans : ∀ a b c, R a b → R b c → R a c
  operation : ∀ op (s : Request × E), allowed op → R s.1 (op.run s).1
  unmerged : ∀ r, R r r.unmerged
  restored : ∀ {way} {t : DispatchTarget} {before called left}, Found before t way called → R called left →
    R before (t.restore way before left)

namespace Frame

theorem dispatch (frame : Frame allowed R) {way : DispatchWay} {t : DispatchTarget} {handler : Handler E}
    {s : Request × E} (keeps : ∀ called, t.enter way s = .ok called → R called.1 (handler t.text called).2.1) :
    R s.1 (t.run way handler s).2.1 := by
  cases entered : t.enter way s with
  | ok called =>
    rw [run_of_enter entered, leave_request]
    exact frame.restored (found_of_enter entered) (keeps called entered)
  | error f =>
    obtain ⟨after,ends,same | unmerged⟩ := run_of_not_entered entered
    · rw [ends, same]
      exact frame.refl s.1
    · rw [ends, unmerged]
      exact frame.unmerged s.1

theorem run (frame : Frame allowed R) {p : Program E} {s : Request × E} (stays : p.Stays allowed s) :
    R s.1 (p.run s).2.1 := by
  -- By induction on the program, the handlers of its dispatches included.
  induction p generalizing s with
  | done outcome => exact frame.refl s.1
  | perform op next ih => exact frame.trans _ _ _ (frame.operation op s stays.1) (ih _ _ stays.2)
  | dispatch way t handler next inner ih =>
    have kept : R s.1 (t.run way (handling handler) s).2.1 :=
      frame.dispatch fun called entered => inner t.text (stays.1 called entered)
    exact frame.trans _ _ _ kept (ih _ _ _ stays.2)

/-- What holds at the start, what the frame carries on within a handler, and what every entry of a
dispatch hands on, holds in the innermost handler. -/
theorem reaches (frame : Frame allowed R) {I : List (Entered E) → Request → Prop}
    (carries : ∀ {outer r later}, R r later → I outer r → I outer later)
    (enters : ∀ {outer d called}, Found d.before.1 d.target d.way called → I outer d.before.1 →
      I (outer ++ [d]) called)
    {p : Program E} {s here : Request × E} {nest outer : List (Entered E)}
    (m : p.Reaches allowed s nest here) (start : I outer s.1) : I (outer ++ nest) here.1 := by
  induction m generalizing outer with
  | now p s => simpa using start
  | @performed op next s here nest fine later ih =>
    exact ih (carries (frame.operation op s fine) start)
  | @within way t handler next s called here nest entered inside ih =>
    have inner := ih (enters (d := ⟨⟨way,t⟩,s⟩) (found_of_enter entered) start)
    rwa [List.append_assoc] at inner
  | @returned way t handler next s after here outcome nest left fine later ih =>
    have kept : R s.1 (t.run way (handling handler) s).2.1 :=
      frame.dispatch fun called entered => frame.run (fine called entered)
    rw [left] at kept
    exact ih (carries kept start)

end Frame

end Program

end HttpRequest
