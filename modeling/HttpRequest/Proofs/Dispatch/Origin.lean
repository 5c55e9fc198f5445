import HttpRequest.Proofs.Dispatch.Nest
import HttpRequest.Proofs.Request.Standing
import HttpRequest.Scripted.Collaborators

/-! # Where a forwarded request came from

A forward and an error dispatch to a path tell where the request was, in six attributes. The first one
tells its place, and later ones repeat what the first told, however far the request has moved on. An
include hides the six, so that a forward inside of it counts as a first one again. As a layer answers
for the six names or hides them, only the topmost counts, and nobody but the dispatches puts one there.
-/
namespace HttpRequest

namespace Attributes

/-- What each layer tells of a forward, the topmost first. -/
def told (a : Attributes) : List (Option DispatchRecord) :=
  a.layers.map fun layer => if layer.space = .forward then some layer.record else none

/-- The base table holds none of the six names. -/
def Silent (a : Attributes) : Prop :=
  ∀ f, a.base.get? (Space.forward.key f) = none

theorem get?_forward_key (a : Attributes) (f : DispatchField) :
    a.get? (Space.forward.key f) =
      match a.told with
      | [] => a.base.get? (Space.forward.key f)
      | top :: _ => top.bind (·.get? f) := by
  obtain ⟨layers,base⟩ := a
  cases layers with
  | nil => rfl
  | cons layer below =>
    obtain ⟨space,record⟩ := layer
    match space with
    | .forward => simp [get?, getThrough, told, Space.field?_key]
    | .include =>
      have outside : Space.include.field? (Space.forward.key f) = none :=
        Space.field?_of_not_holds (Space.holds_other (Space.holds_key .forward f))
      simp [get?, getThrough, told, outside, Space.other, Space.holds_key]

@[simp] theorem told_push (a : Attributes) (space : Space) (record : DispatchRecord) :
    (a.push space record).told = (if space = .forward then some record else none) :: a.told := rfl

@[simp] theorem told_pop (a : Attributes) : a.pop.2.told = a.told.tail := by
  simp [pop, told]

/-- Between two states no layer was put on top or taken away and nobody wrote one of the six names. -/
structure SameTelling (before after : Attributes) : Prop where
  told : after.told = before.told
  silent : before.Silent → after.Silent

namespace SameTelling

theorem refl (a : Attributes) : SameTelling a a := ⟨rfl,id⟩

theorem trans {a b c : Attributes} (first : SameTelling a b) (second : SameTelling b c) : SameTelling a c :=
  ⟨second.told.trans first.told,second.silent ∘ first.silent⟩

end SameTelling

theorem sameTelling_putThrough {name : String} (other : ∀ f, name ≠ Space.forward.key f)
    (value : Option AttributeValue) (base : AttributeTable) (layers : List Layer) :
    SameTelling ⟨layers,base⟩ (putThrough name value base layers).2 := by
  induction layers with
  | nil => exact ⟨rfl,fun silent f => (base.get?_put_of_ne (other f).symm value).trans (silent f)⟩
  | cons layer below ih =>
    unfold putThrough
    split
    next f owned =>
      obtain ⟨space,record⟩ := layer
      match space with
      | .forward => exact absurd (Space.eq_key_of_field? owned) (other f)
      | .include => exact ⟨rfl,id⟩
    · exact ⟨congrArg (_ :: ·) ih.told,ih.silent⟩

theorem sameTelling_clear (a : Attributes) : SameTelling a a.clear.2 := by
  unfold clear
  split
  next plain =>
    refine ⟨?_,fun _ f => rfl⟩
    simp [told, List.isEmpty_iff.mp plain]
  · exact .refl a

end Attributes

namespace Request

/-- What a forward tells of a place when nothing was told before. -/
def placed (r : Request) : DispatchField → Option AttributeValue
  | .requestUri => r.requestUri?.map .text
  | .contextPath => r.contextPath.map .text
  | .handlerPath => r.handlerPath.map .text
  | .pathInfo => r.pathInfo.map .text
  | .queryString => r.queryString?.map .text
  | .mapping => r.mapping.map .route

theorem get?_forwardRecord (r : Request) (f : DispatchField) :
    r.forwardRecord.get? f =
      if (r.attribute? (Space.forward.key .requestUri)).isSome then r.attribute? (Space.forward.key f)
      else r.placed f := by
  unfold forwardRecord
  split
  · exact DispatchRecord.get?_ofFields _ f
  · cases f <;> rfl

structure SameOrigin (before after : Request) : Prop extends
    Attributes.SameTelling before.attributes after.attributes where
  uri : after.uri = before.uri

end Request

def Operation.LeavesOrigin {E : Type} : Operation E → Prop
  | setAttribute name _ => ∀ f, name ≠ Space.forward.key f
  | removeAttribute name => ∀ f, name ≠ Space.forward.key f
  | _ => True

/-- The first dispatch that handed the request over to a path since the last include of a path. -/
def origin {E : Type} (nest : List (Entered E)) : Option (Entered E) :=
  ((nest.filter (·.target.isPath)).reverse.takeWhile (·.way != .inclusion)).getLast?

theorem origin_concat {E : Type} (nest : List (Entered E)) (d : Entered E) :
    origin (nest ++ [d]) =
      if d.target.isPath then if d.way = .inclusion then none else (origin nest).or (some d) else origin nest := by
  unfold origin
  cases path : d.target.isPath with
  | false => simp [path]
  | true =>
    by_cases included : d.way = .inclusion
    · simp [path, included]
    · simp [path, included, List.getLast?_cons]

open Request DispatchTarget

namespace Program

theorem frame_sameOrigin {E : Type} [Body.ExternalSources E] [SessionStores E] [LoginServices E]
    [AttributeObservers E] : Frame (E := E) Operation.LeavesOrigin SameOrigin where
  refl r := ⟨.refl _,rfl⟩
  trans a b c first second := ⟨first.toSameTelling.trans second.toSameTelling,second.uri.trans first.uri⟩
  operation op s leaves := by
    refine ⟨?_,(op.run_stage s).uri⟩
    have changed : (op.run s).1.attributes = (op.change s.1.standing).attributes :=
      congrArg Standing.attributes (op.run_standing s)
    rw [changed]
    cases op with
    | setAttribute name value => exact Attributes.sameTelling_putThrough leaves _ _ _
    | removeAttribute name => exact Attributes.sameTelling_putThrough leaves _ _ _
    | clearAttributes => exact Attributes.sameTelling_clear _
    | _ => exact .refl _
  unmerged r := ⟨.refl _,rfl⟩
  restored := by
    intro way t before called left found kept
    have popped {a b : Attributes} {space : Space} {record : DispatchRecord}
        (same : (a.push space record).SameTelling b) : a.SameTelling b.pop.2 :=
      ⟨by rw [Attributes.told_pop, same.told]; rfl,same.silent⟩
    cases found with
    | included t record known =>
      cases t with
      | named name => exact ⟨kept.toSameTelling,kept.uri⟩
      | path uri contextPath pathInContext => exact ⟨popped kept.toSameTelling,kept.uri⟩
    | named name handsOver =>
      cases way with
      | inclusion => exact absurd rfl handsOver
      | forward | error => exact ⟨kept.toSameTelling,rfl⟩
    | moved uri contextPath pathInContext handsOver merged =>
      cases way with
      | inclusion => exact absurd rfl handsOver
      | forward | error => exact ⟨popped kept.toSameTelling,rfl⟩

/-- What a handler inside a nest reads under the six names. -/
structure Tells {E : Type} (nest : List (Entered E)) (r : Request) : Prop where
  located : r.uri.isSome
  silent : r.attributes.Silent
  known : ∀ d ∈ origin nest, d.before.1.uri.isSome
  told : ∀ f, r.attribute? (Space.forward.key f) = (origin nest).bind (·.before.1.placed f)

namespace Tells
variable {E : Type} {outer : List (Entered E)}

theorem carry {r later : Request} (same : SameOrigin r later) (tells : Tells outer r) : Tells outer later := by
  refine ⟨same.uri ▸ tells.located,same.silent tells.silent,tells.known,fun f => ?_⟩
  rw [← tells.told f]
  unfold attribute?
  rw [Attributes.get?_forward_key, Attributes.get?_forward_key, same.told, tells.silent f,
    same.silent tells.silent f]

theorem record {d : Entered E} (tells : Tells outer d.before.1) (f : DispatchField) :
    d.before.1.forwardRecord.get? f = ((origin outer).or (some d)).bind (·.before.1.placed f) := by
  rw [get?_forwardRecord, tells.told, tells.told]
  cases first : origin outer with
  | none => simp
  | some h =>
    have known : h.before.1.uri.isSome := tells.known h first
    simp [placed, requestUri?, known]

theorem enter {d : Entered E} {called : Request} (found : Found d.before.1 d.target d.way called)
    (tells : Tells outer d.before.1) : Tells (outer ++ [d]) called := by
  have step := origin_concat outer d
  obtain ⟨⟨way,target⟩,before⟩ := d
  dsimp only at found tells step
  cases found with
  | included _ layer known =>
    cases target with
    | named name => exact ⟨tells.located,tells.silent,step ▸ tells.known,step ▸ tells.told⟩
    | path uri contextPath pathInContext =>
      have unmoved : origin (outer ++ [⟨⟨.inclusion,.path uri contextPath pathInContext⟩,before⟩]) = none := step
      refine ⟨tells.located,tells.silent,by simp [unmoved],fun f => ?_⟩
      unfold attribute?
      rw [unmoved, Attributes.get?_forward_key]
      rfl
  | named name handsOver => exact ⟨tells.located,tells.silent,step ▸ tells.known,step ▸ tells.told⟩
  | @moved uri contextPath pathInContext _ handsOver query params merged =>
    have first := step.trans ((if_pos rfl).trans (if_neg handsOver))
    refine ⟨rfl,tells.silent,?_,?_⟩
    · rw [first]
      cases known : origin outer with
      | none => simpa using tells.located
      | some h => simpa using tells.known h known
    · intro f
      unfold attribute?
      rw [first, Attributes.get?_forward_key]
      exact record (d := ⟨⟨way,.path uri contextPath pathInContext⟩,before⟩) tells f

end Tells

variable {E : Type} [Body.ExternalSources E] [SessionStores E] [LoginServices E]
  [AttributeObservers E] [ResponseControl E] {p : Program E} {s here : Request × E} {nest : List (Entered E)}

/-- Where nobody writes the six names, a handler reads under them the place from which the request was
first handed over to a path since the last include of a path, whatever came in between, and nothing
where there was no such dispatch; so inside of an include of a path it reads nothing. -/
theorem first_origin_told (m : p.Reaches Operation.LeavesOrigin s nest here) (located : s.1.uri.isSome)
    (noLayers : s.1.attributes.layers = [])
    (silent : ∀ f, s.1.attributes.base.get? (Space.forward.key f) = none) :
    (∀ f, here.1.attribute? (Space.forward.key f) = (origin nest).bind (·.before.1.placed f)) ∧
    ∀ d ∈ (nest.filter (·.target.isPath)).getLast?, d.way = .inclusion →
      ∀ f, here.1.attribute? (Space.forward.key f) = none := by
  have start : Tells ([] : List (Entered E)) s.1 := by
    refine ⟨located,silent,by simp [origin],fun f => ?_⟩
    unfold attribute?
    rw [Attributes.get?_forward_key, Attributes.told, noLayers]
    exact silent f
  have tells := frame_sameOrigin.reaches (I := Tells) Tells.carry Tells.enter m start
  rw [List.nil_append] at tells
  refine ⟨tells.told,?_⟩
  intro d innermost included f
  have unmoved : origin nest = none := by
    obtain ⟨outer,last⟩ := List.getLast?_eq_some_iff.mp innermost
    simp [origin, last, included]
  rw [tells.told f, unmoved]
  rfl

def chainStart : Request × Scripted.Environment Unit :=
  ({ uri := some { path := "/first" }, contextPath := some "", body := .new 30000 },{ kept := () })

def chainForward : Dispatched :=
  ⟨.forward,.path { path := "/second" } "" "/second"⟩

def chainNamed : Dispatched :=
  ⟨.forward,.named "third"⟩

def chainError : Dispatched :=
  ⟨.error,.path { path := "/fourth" } "" "/fourth"⟩

/-- Forwards to a path, from there to a name, and fails over to another path. -/
def chain : Program (Scripted.Environment Unit) :=
  .dispatch chainForward.way chainForward.target
    (fun _ => .dispatch chainNamed.way chainNamed.target
      (fun _ => .dispatch chainError.way chainError.target (fun _ => .done (.ok ())) fun _ _ _ => .done (.ok ()))
      fun _ _ _ => .done (.ok ()))
    fun _ _ _ => .done (.ok ())

/-- After two moves the first place is still told. -/
theorem chain_tells : ∃ nest here, chain.Reaches Operation.LeavesOrigin chainStart nest here ∧
    nest.map (·.toDispatched) = [chainForward,chainNamed,chainError] ∧ chainStart.1.uri.isSome ∧
    chainStart.1.attributes.layers = [] ∧
    (∀ f, chainStart.1.attributes.base.get? (Space.forward.key f) = none) ∧
    here.1.requestUri? = some "/fourth" ∧
    here.1.attribute? (Space.forward.key .requestUri) = some (.text "/first") ∧
    here.1.attribute? (Space.forward.key .handlerPath) = none := by
  obtain ⟨nest,here,reaches,around,first,now⟩ :
      ∃ nest here, chain.Reaches Operation.LeavesOrigin chainStart nest here ∧
        nest.map (·.toDispatched) = [chainForward,chainNamed,chainError] ∧
        origin nest = some ⟨chainForward,chainStart⟩ ∧ here.1.requestUri? = some "/fourth" :=
    ⟨_,_,.within rfl (.within rfl (.within rfl (.now _ _))),rfl,rfl,rfl⟩
  obtain ⟨told,-⟩ := first_origin_told reaches rfl rfl fun _ => rfl
  refine ⟨nest,here,reaches,around,rfl,rfl,fun _ => rfl,now,?_,?_⟩
  · rw [told, first]
    rfl
  · rw [told, first]
    rfl

end Program

end HttpRequest
