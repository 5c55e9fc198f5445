import HttpRequest.Proofs.Dispatch.Program

/-! # Restoration after a dispatch

Whatever a handler does, further dispatches included, and however it ends, the dispatch that called it
leaves the kind, the address, the stored parameters of the query and the layers of attributes as it
found them. The invariant of the handlers is that they keep the stage of the request: no operation
touches it, and every dispatch takes away the one layer that it put on top.
-/
namespace HttpRequest

namespace Request

/-- A dispatch has put back what it changed. -/
structure Restored (before after : Request) : Prop extends SameStage before after where
  query : after.params.query = before.params.query
  merged : after.params.merged = none

structure SamePlace (before after : Request) : Prop where
  contextPath : after.contextPath = before.contextPath
  handlerPath : after.handlerPath = before.handlerPath
  pathInfo : after.pathInfo = before.pathInfo
  mapping : after.mapping = before.mapping

theorem spaces_popIf (r : Request) (layered : Bool) :
    (r.popIf layered).attributes.spaces =
      if layered then r.attributes.spaces.tail else r.attributes.spaces := by
  cases layered with
  | true => exact Attributes.spaces_pop r.attributes
  | false => rfl

theorem uri_popIf (r : Request) (layered : Bool) : (r.popIf layered).uri = r.uri := by
  cases layered <;> rfl

/-- Beginning an include keeps the address and puts a layer on top exactly for a path. -/
theorem beginInclude_stage (r : Request) (t : DispatchTarget) :
    (r.beginInclude t).2.uri = r.uri ∧
      (r.beginInclude t).2.attributes.spaces =
        if t.isPath then .include :: r.attributes.spaces else r.attributes.spaces := by
  cases t with
  | named name => exact ⟨rfl,rfl⟩
  | path uri contextPath pathInContext =>
    unfold beginInclude
    dsimp only
    split
    · exact ⟨rfl,rfl⟩
    · split <;> exact ⟨rfl,rfl⟩

theorem moveAndMerge_attributes (r : Request) (uri : Uri) (contextPath pathInContext : String) :
    (r.moveAndMerge uri contextPath pathInContext).2.attributes = r.attributes ∧
      ∀ moved, (r.moveAndMerge uri contextPath pathInContext).1 = .ok moved →
        moved.attributes = r.attributes := by
  unfold moveAndMerge
  dsimp only
  split
  · exact ⟨rfl,fun _ h => by cases h; rfl⟩
  · split
    · exact ⟨rfl,fun _ h => by cases h⟩
    · split
      · exact ⟨rfl,fun _ h => by cases h; rfl⟩
      · exact ⟨rfl,fun _ h => by cases h; rfl⟩

/-- A forward or an error dispatch to a path that goes on to its handler has put a layer on top, and
one that does not has put none. -/
theorem beginForward_spaces (r : Request) (kind : DispatchKind) (t : DispatchTarget) :
    (r.beginForward kind t).2.attributes.spaces =
      if t.isPath && (r.beginForward kind t).1.toBool then .forward :: r.attributes.spaces
      else r.attributes.spaces := by
  cases t with
  | named name => rfl
  | path uri contextPath pathInContext =>
    obtain ⟨base,isBase⟩ : ∃ base, base = { r with kind } := ⟨_,rfl⟩
    have layers : base.attributes = r.attributes := by rw [isBase]
    have kept := moveAndMerge_attributes base uri contextPath pathInContext
    unfold beginForward
    rw [← isBase]
    cases merged : base.moveAndMerge uri contextPath pathInContext with
    | mk result left =>
      rw [merged] at kept
      cases result with
      | ok moved =>
        simp only [merged, DispatchTarget.isPath, Except.toBool, Bool.and_self, if_true,
          Attributes.spaces_push, kept.2 moved rfl, layers]
      | error f =>
        have spaces : left.attributes.spaces = r.attributes.spaces := by
          rw [show left.attributes = base.attributes from kept.1, layers]
        simp only [merged]
        split
        · simp only [DispatchTarget.isPath, Except.toBool, Bool.and_self, if_true,
            Attributes.spaces_push, spaces]
        · simp only [DispatchTarget.isPath, Except.toBool, Bool.and_false, spaces]
          rfl

end Request

def Handler.Keeps {E : Type} (handler : Handler E) : Prop :=
  ∀ text s, Request.SameStage s.1 (handler text s).2.1

namespace DispatchTarget

open Request

variable {E : Type} [ResponseControl E] {t : DispatchTarget} {handler : Handler E}

theorem runInclude_restored (keeps : handler.Keeps) (s : Request × E) :
    Restored s.1 (t.runInclude handler s).2.1 := by
  have begun := beginInclude_stage s.1 t
  have ended (r : Request) (same : SameStage (s.1.beginInclude t).2 r) :
      Restored s.1 (r.endInclude s.1.includeSnapshot t.isPath) := by
    refine ⟨⟨rfl,?_,?_⟩,rfl,rfl⟩
    · exact (uri_popIf r t.isPath).trans (same.uri.trans begun.1)
    · refine (spaces_popIf r t.isPath).trans ?_
      rw [same.spaces, begun.2]
      cases t.isPath <;> rfl
  unfold runInclude
  cases began : s.1.beginInclude t with
  | mk result r =>
    rw [began] at ended
    cases result with
    | error f => exact ended r (.refl r)
    | ok _ => exact ended _ (keeps t.text (r,ResponseControl.markIncluding s.2))

theorem runForwardAs_restored (kind : DispatchKind) (keeps : handler.Keeps) {s : Request × E} {e : E}
    (reset : ResponseControl.resetForForward s.2 = (.ok (),e)) :
    Restored s.1 (t.runForwardAs kind handler s).2.1 ∧
      SamePlace s.1 (t.runForwardAs kind handler s).2.1 := by
  have layers := beginForward_spaces s.1 kind t
  have ended (r : Request) (layered : Bool)
      (spaces : (r.popIf layered).attributes.spaces = s.1.attributes.spaces) :
      Restored s.1 (r.endForward s.1.forwardSnapshot layered) ∧
        SamePlace s.1 (r.endForward s.1.forwardSnapshot layered) :=
    ⟨⟨⟨rfl,rfl,spaces⟩,rfl,rfl⟩,rfl,rfl,rfl,rfl⟩
  unfold runForwardAs
  simp only [reset]
  cases began : s.1.beginForward kind t with
  | mk result r =>
    rw [began] at layers
    cases result with
    | error f => exact ended r false (by simpa [Except.toBool, spaces_popIf] using layers)
    | ok _ =>
      refine ended _ t.isPath ?_
      rw [spaces_popIf, (keeps t.text (r,e)).spaces, layers]
      cases t.isPath <;> rfl

theorem runForwardAs_refused (kind : DispatchKind) {s : Request × E} {f : Failure} {e : E}
    (reset : ResponseControl.resetForForward s.2 = (.error f,e)) (handler : Handler E) :
    t.runForwardAs kind handler s = (.failed f,s.1,e) := by
  unfold runForwardAs
  simp only [reset]

/-- How the response refuses a dispatch: why, and the environment afterwards. An include is never
refused. -/
def refusal : DispatchWay → E → Option (Failure × E)
  | .inclusion, _ => none
  | .forward, e | .error, e =>
    match ResponseControl.resetForForward e with
    | (.ok _, _) => none
    | (.error f, e) => some (f, e)

theorem reset_of_goes {e : E} (goes : refusal .forward e = none) :
    ∃ left, ResponseControl.resetForForward e = (.ok (),left) := by
  cases reset : ResponseControl.resetForForward e with
  | mk result left =>
    cases result with
    | ok _ => exact ⟨left,rfl⟩
    | error f => simp [refusal, reset] at goes

theorem reset_of_refused {e left : E} {f : Failure} (refused : refusal .forward e = some (f,left)) :
    ResponseControl.resetForForward e = (.error f,left) := by
  cases reset : ResponseControl.resetForForward e with
  | mk result other =>
    cases result with
    | ok _ => simp [refusal, reset] at refused
    | error g =>
      simp only [refusal, reset, Option.some.injEq, Prod.mk.injEq] at refused
      rw [refused.1, refused.2]

theorem run_restored {way : DispatchWay} (keeps : handler.Keeps) {s : Request × E}
    (goes : refusal way s.2 = none) :
    Restored s.1 (t.run way handler s).2.1 ∧
      (way ≠ .inclusion → SamePlace s.1 (t.run way handler s).2.1) := by
  cases way with
  | inclusion => exact ⟨runInclude_restored keeps s,fun other => absurd rfl other⟩
  | forward | error =>
    obtain ⟨left,reset⟩ := reset_of_goes goes
    obtain ⟨restored,place⟩ := runForwardAs_restored _ keeps reset
    exact ⟨restored,fun _ => place⟩

theorem run_refused {way : DispatchWay} {s : Request × E} {f : Failure} {e : E}
    (refused : refusal way s.2 = some (f,e)) (handler : Handler E) :
    t.run way handler s = (.failed f,s.1,e) := by
  cases way with
  | inclusion => cases refused
  | forward | error => exact runForwardAs_refused _ (reset_of_refused refused) handler

theorem run_stage {way : DispatchWay} (keeps : handler.Keeps) (s : Request × E) :
    SameStage s.1 (t.run way handler s).2.1 := by
  cases refused : refusal way s.2 with
  | none => exact (run_restored keeps refused).1.toSameStage
  | some cause =>
    rw [run_refused refused handler]
    exact .refl s.1

end DispatchTarget

namespace Program

open Request DispatchTarget

variable {E : Type} [Body.ExternalSources E] [SessionStores E] [LoginServices E]
  [AttributeObservers E] [ResponseControl E]

theorem run_sameStage (p : Program E) (s : Request × E) : SameStage s.1 (p.run s).2.1 := by
  induction p generalizing s with
  | done outcome => exact .refl s.1
  | perform op next ih => exact (op.run_stage s).trans (ih _ _ _)
  | dispatch way t programs next inner ih =>
    -- the handlers that are called are parts of this program, so they keep the stage
    have keeps : Handler.Keeps (handling programs) := inner
    have kept : SameStage s.1 (t.run way (handling programs) s).2.1 := run_stage keeps s
    exact kept.trans (ih _ _ _ _)

theorem keeps_handling (programs : String → Program E) : Handler.Keeps (handling programs) :=
  fun text => (programs text).run_sameStage

/-- However a handler ends and whatever it does, the dispatch that called it restores the request, and
a forward or an error dispatch restores its place as well; a dispatch that the response refuses leaves
the request as it is, whoever the handler is. -/
theorem dispatch_restores (way : DispatchWay) (t : DispatchTarget) (programs : String → Program E)
    (s : Request × E) :
    match refusal way s.2 with
    | none =>
      Restored s.1 (t.run way (handling programs) s).2.1 ∧
        (way ≠ .inclusion → SamePlace s.1 (t.run way (handling programs) s).2.1)
    | some (f, e) => ∀ handler : Handler E, t.run way handler s = (.failed f,s.1,e) := by
  cases refused : refusal way s.2 with
  | none => exact run_restored (keeps_handling programs) refused
  | some cause => exact run_refused refused

end Program

end HttpRequest
