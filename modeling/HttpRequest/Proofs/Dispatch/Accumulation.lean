import HttpRequest.Proofs.Dispatch.Restoration
import HttpRequest.Proofs.Param.Merge
import HttpRequest.Scripted.Collaborators

/-! # Accumulation of parameters along a nest

Every dispatch to a path merges the values of its target with what the request showed before, which
may have been computed already or may have to be decoded now from a query that an outer forward
rewrote. What counts is only what the request shows: entering a dispatch changes that by one merge, and
nothing that a handler does, a dispatch that is over included, changes it.
-/
namespace HttpRequest

def Dispatched.targetValues (d : Dispatched) (name : String) : List String :=
  match Request.decodeQuery d.target.query? .utf8 with
  | .ok p => p.values name
  | .error _ => []

/-- The values of a name inside a dispatch, given those outside: the values of the target come behind
in an include and in front otherwise. -/
def Dispatched.merge (d : Dispatched) (name : String) (outside : List String) : List String :=
  match d.way with
  | .inclusion => outside ++ d.targetValues name
  | .forward | .error => d.targetValues name ++ outside

namespace Request

theorem mergeParams_of_seen {r outer : Request} {q target : Params} {targetQuery : Option String}
    (params : r.params = outer.params) (encoding : r.queryCharset = outer.queryCharset)
    (seen : outer.seenQuery = .ok q) (decoded : decodeQuery targetQuery .utf8 = .ok target)
    (merge : (target previous : Params) → Params) :
    r.mergeParams outer.queryString? targetQuery merge = .ok (merge target q) := by
  have previous : r.previousParams outer.queryString? = .ok q := by
    rw [← seen]
    cases query : outer.params.query with
    | some p => simp only [previousParams, seenQuery, params, query]
    | none => simp only [previousParams, seenQuery, queryEncoding, params, encoding, query]
  simp only [mergeParams, decoded, previous]

theorem values_of_isNone {query : Option String} {target : Params} (queryless : query.isNone)
    (decoded : decodeQuery query .utf8 = .ok target) (name : String) : target.values name = [] := by
  rw [Option.isNone_iff_eq_none.mp queryless] at decoded
  cases decoded
  rfl

theorem beginInclude_seen {r : Request} {t : DispatchTarget} {q target : Params}
    (seen : r.seenQuery = .ok q) (decoded : decodeQuery t.query? .utf8 = .ok target) :
    (r.beginInclude t).1 = .ok () ∧
      ∃ inner, (r.beginInclude t).2.seenQuery = .ok inner ∧
        ∀ name, inner.values name = q.values name ++ target.values name := by
  cases t with
  | named handler =>
    refine ⟨rfl,q,seen,?_⟩
    intro name
    simp [values_of_isNone rfl decoded name]
  | path uri contextPath pathInContext =>
    have decoded : decodeQuery uri.query .utf8 = .ok target := decoded
    obtain ⟨base,isBase⟩ : ∃ base, base = { r with
        kind := .include
        attributes := r.attributes.push .include (includeRecord uri contextPath pathInContext) } := ⟨_,rfl⟩
    have params : base.params = r.params := by rw [isBase]
    have encoding : base.queryCharset = r.queryCharset := by rw [isBase]
    have sees : base.seenQuery = .ok q := by rw [isBase]; exact seen
    unfold beginInclude
    dsimp only
    rw [← isBase]
    split
    next queryless =>
      refine ⟨rfl,q,sees,?_⟩
      intro name
      simp [values_of_isNone queryless decoded name]
    next =>
      rw [mergeParams_of_seen params encoding seen decoded]
      exact ⟨rfl,_,rfl,fun name => Params.values_merge q target name⟩

theorem moveAndMerge_seen {r : Request} {uri : Uri} {q target : Params} (seen : r.seenQuery = .ok q)
    (decoded : decodeQuery uri.query .utf8 = .ok target) (contextPath pathInContext : String) :
    ∃ moved, (r.moveAndMerge uri contextPath pathInContext).1 = .ok moved ∧
      ∃ inner, moved.seenQuery = .ok inner ∧
        ∀ name, inner.values name = target.values name ++ q.values name := by
  unfold moveAndMerge
  dsimp only
  split
  next queryless =>
    obtain ⟨targetNone,previousNone⟩ := Bool.and_eq_true_iff.mp queryless
    have moved : (r.moveTo uri contextPath pathInContext).queryString? = r.queryString? := by
      rw [Option.isNone_iff_eq_none.mp previousNone]
      simp [queryString?, moveTo, Uri.withPathQuery, Uri.withQuery,
        Option.isNone_iff_eq_none.mp targetNone]
    refine ⟨_,rfl,q,?_,?_⟩
    · rw [← seen]
      simp only [seenQuery, moved]
      rfl
    · intro name
      simp [values_of_isNone targetNone decoded name]
  next =>
    have merged : (r.moveTo uri contextPath pathInContext).mergeParams r.queryString? uri.query
        Params.mergeForward = .ok (Params.mergeForward target q) :=
      mergeParams_of_seen rfl rfl seen decoded _
    rw [merged]
    have values (name : String) := Params.values_merge target q name
    dsimp only
    split
    · exact ⟨_,rfl,_,rfl,values⟩
    · exact ⟨_,rfl,_,rfl,values⟩

theorem beginForward_seen {r : Request} {t : DispatchTarget} {q target : Params} (kind : DispatchKind)
    (seen : r.seenQuery = .ok q) (decoded : decodeQuery t.query? .utf8 = .ok target) :
    (r.beginForward kind t).1 = .ok () ∧
      ∃ inner, (r.beginForward kind t).2.seenQuery = .ok inner ∧
        ∀ name, inner.values name = target.values name ++ q.values name := by
  cases t with
  | named handler =>
    refine ⟨rfl,q,seen,?_⟩
    intro name
    simp [values_of_isNone rfl decoded name]
  | path uri contextPath pathInContext =>
    obtain ⟨base,isBase⟩ : ∃ base, base = { r with kind } := ⟨_,rfl⟩
    have seen : base.seenQuery = .ok q := by rw [isBase]; exact seen
    obtain ⟨moved,goes,inner,shows,values⟩ :=
      moveAndMerge_seen seen decoded contextPath pathInContext
    unfold beginForward
    dsimp only
    rw [← isBase]
    cases merged : base.moveAndMerge uri contextPath pathInContext with
    | mk result left =>
      rw [merged] at goes
      cases goes
      exact ⟨rfl,inner,shows,values⟩

end Request

open Request

namespace DispatchTarget

variable {E : Type} [ResponseControl E] {t : DispatchTarget}

theorem enter_of_seen {way : DispatchWay} {s : Request × E} {q target : Params}
    (seen : s.1.seenQuery = .ok q) (decoded : decodeQuery t.query? .utf8 = .ok target)
    (goes : refusal way s.2 = none) : ∃ called, t.enter way s = .ok called := by
  cases way with
  | inclusion =>
    exact ⟨_,enterInclude_eq_ok_iff.mpr ⟨(beginInclude_seen seen decoded).1,rfl⟩⟩
  | forward | error =>
    obtain ⟨left,reset⟩ := reset_of_goes goes
    exact ⟨_,enterForward_eq_ok_iff.mpr ⟨left,reset,(beginForward_seen _ seen decoded).1,rfl⟩⟩

theorem seen_of_enter {way : DispatchWay} {s called : Request × E} {q target : Params}
    (entered : t.enter way s = .ok called) (seen : s.1.seenQuery = .ok q)
    (decoded : decodeQuery t.query? .utf8 = .ok target) :
    ∃ inner, called.1.seenQuery = .ok inner ∧
      ∀ name, inner.values name = Dispatched.merge ⟨way,t⟩ name (q.values name) := by
  cases way with
  | inclusion =>
    obtain ⟨-,rfl⟩ := enterInclude_eq_ok_iff.mp entered
    simpa only [Dispatched.merge, Dispatched.targetValues, decoded] using (beginInclude_seen seen decoded).2
  | forward | error =>
    obtain ⟨left,-,-,rfl⟩ := enterForward_eq_ok_iff.mp entered
    simpa only [Dispatched.merge, Dispatched.targetValues, decoded] using (beginForward_seen _ seen decoded).2

end DispatchTarget

namespace Program

open DispatchTarget

variable {E : Type} [Body.ExternalSources E] [SessionStores E] [LoginServices E]
  [AttributeObservers E] [ResponseControl E] {p : Program E} {s here : Request × E}
  {nest : List Dispatched} {passed : List (Request × E)}

theorem query_run (way : DispatchWay) (t : DispatchTarget) (programs : String → Program E)
    (s : Request × E) : (t.run way (handling programs) s).2.1.params.query = s.1.params.query := by
  cases refused : refusal way s.2 with
  | none => exact (run_restored (keeps_handling programs) refused).1.query
  | some cause => rw [run_refused refused]

theorem seenQuery_run (way : DispatchWay) (t : DispatchTarget) (programs : String → Program E)
    (s : Request × E)
    (encoding : (t.run way (handling programs) s).2.1.queryEncoding = s.1.queryEncoding) :
    (t.run way (handling programs) s).2.1.seenQuery = s.1.seenQuery := by
  have stage : SameStage s.1 (t.run way (handling programs) s).2.1 :=
    run_stage (keeps_handling programs) s
  exact seenQuery_congr (query_run way t programs s) stage.uri encoding

/-- Along the way to a moment the values of a name are merged with those of one target after another,
from the outermost dispatch inwards. -/
theorem Moment.seen (m : p.Moment s nest passed here) {q : Params} (shown : s.1.seenQuery = .ok q)
    (targets : ∀ d ∈ nest, ∃ target, decodeQuery d.target.query? .utf8 = .ok target)
    (steady : ∀ t ∈ passed, t.1.queryEncoding = s.1.queryEncoding) :
    ∃ seen, here.1.seenQuery = .ok seen ∧ ∀ name,
      seen.values name = nest.foldl (fun values d => d.merge name values) (q.values name) := by
  induction m generalizing q with
  | now p s => exact ⟨q,shown,fun _ => rfl⟩
  | @performed op next s here nest passed later ih =>
    have encoding := steady _ (.tail s later.first_mem)
    refine ih ?_ targets fun t mem => (steady t (.tail s mem)).trans encoding.symm
    rw [op.run_seenQuery s encoding, shown]
  | @within way t handler next s called here nest passed entered inside ih =>
    have encoding := steady _ (.tail s inside.first_mem)
    obtain ⟨target,decoded⟩ := targets ⟨way,t⟩ (.head nest)
    obtain ⟨q₁,shown₁,merged⟩ := seen_of_enter entered shown decoded
    obtain ⟨seen,shows,values⟩ := ih shown₁ (fun d mem => targets d (.tail _ mem))
      fun t mem => (steady t (.tail s mem)).trans encoding.symm
    refine ⟨seen,shows,?_⟩
    intro name
    rw [values name, merged name, List.foldl_cons]
  | @returned way t handler next s after here outcome nest passed left later ih =>
    have encoding := steady _ (.tail s later.first_mem)
    refine ih ?_ targets fun t mem => (steady t (.tail s mem)).trans encoding.symm
    -- this dispatch is over, so whatever was merged inside is gone
    have kept := seenQuery_run way t handler s
    rw [left] at kept
    rw [kept encoding, shown]

/-- Inside any nest of dispatches the parameters of the query hold, for every name, the request's own
values, with the values of the targets put in front or behind from the outermost dispatch inwards;
and a further dispatch to a target that decodes calls its handler unless the response refuses it. -/
theorem seen_accumulates (m : p.Moment s nest passed here) {own : Params}
    (decodes : decodeQuery s.1.queryString? s.1.queryEncoding = .ok own)
    (stored : ∀ q, s.1.params.query = some q → q = own)
    (targets : ∀ d ∈ nest, ∃ target, decodeQuery d.target.query? .utf8 = .ok target)
    (steady : ∀ t ∈ passed, t.1.queryEncoding = s.1.queryEncoding) :
    (∃ seen, (queryParams.exec here).1 = .ok seen ∧ ∀ name,
      seen.values name = nest.foldl (fun values d => d.merge name values) (own.values name)) ∧
    ∀ way (t : DispatchTarget) target, decodeQuery t.query? .utf8 = .ok target →
      refusal way here.2 = none → ∃ called, t.enter way here = .ok called ∧
        ∀ handler : Handler E, t.run way handler here = t.leave way here.1 (handler t.text called) := by
  have shown : s.1.seenQuery = .ok own := by
    unfold seenQuery
    cases query : s.1.params.query with
    | some q => rw [stored q query]
    | none => exact decodes
  obtain ⟨seen,shows,values⟩ := m.seen shown targets steady
  constructor
  · exact ⟨seen,by rw [queryParams_exec here.1 here.2]; exact shows,values⟩
  · intro way t target decoded goes
    obtain ⟨called,entered⟩ := enter_of_seen shows decoded goes
    exact ⟨called,entered,run_of_enter entered⟩

def nestedStart : Request × Scripted.Environment Unit :=
  ({ uri := some { query := some "a=1" }, body := .new 30000 }, { kept := () })

def nestedForward : Dispatched :=
  ⟨.forward, .path { path := "/x", query := some "a=2" } "" "/x"⟩

def nestedInclude : Dispatched :=
  ⟨.inclusion, .path { path := "/y", query := some "a=3" } "" "/y"⟩

def nested : Program (Scripted.Environment Unit) :=
  .perform .readQuery fun _ _ =>
    .dispatch nestedForward.way nestedForward.target
      (fun _ => .dispatch nestedInclude.way nestedInclude.target (fun _ => .done (.ok ()))
        fun _ _ _ => .done (.ok ()))
      fun _ _ _ => .done (.ok ())

/-- In the include, the value of the forward comes first and that of the include last. -/
theorem nested_sees : ∃ here passed own seen,
    nested.Moment nestedStart [nestedForward,nestedInclude] passed here ∧
    decodeQuery nestedStart.1.queryString? nestedStart.1.queryEncoding = .ok own ∧
    nestedStart.1.params.query = none ∧
    (∀ d ∈ [nestedForward,nestedInclude], ∃ target, decodeQuery d.target.query? .utf8 = .ok target) ∧
    (∀ t ∈ passed, t.1.queryEncoding = nestedStart.1.queryEncoding) ∧
    (queryParams.exec here).1 = .ok seen ∧ seen.values "a" = ["2","1","3"] := by
  have single (value : String) :
      (Params.ofTable (ParamTable.add ∅ "a" value)).values "a" = [value] := by
    simp [ParamTable.values_add]
  have own : decodeQuery nestedStart.1.queryString? nestedStart.1.queryEncoding =
      .ok (.ofTable (ParamTable.add ∅ "a" "1")) := rfl
  have outer : decodeQuery nestedForward.target.query? .utf8 =
      .ok (.ofTable (ParamTable.add ∅ "a" "2")) := rfl
  have inner : decodeQuery nestedInclude.target.query? .utf8 =
      .ok (.ofTable (ParamTable.add ∅ "a" "3")) := rfl
  have targets : ∀ d ∈ [nestedForward,nestedInclude],
      ∃ target, decodeQuery d.target.query? .utf8 = .ok target := by
    simp only [List.forall_mem_cons]
    exact ⟨⟨_,outer⟩,⟨_,inner⟩,by simp⟩
  obtain ⟨here,passed,moment,steady⟩ : ∃ here passed,
      nested.Moment nestedStart [nestedForward,nestedInclude] passed here ∧
        ∀ t ∈ passed, t.1.queryEncoding = nestedStart.1.queryEncoding := by
    refine ⟨_,_,.performed (.within rfl (.within rfl (.now _ _))),?_⟩
    simp only [List.forall_mem_cons]
    exact ⟨trivial,rfl,rfl,rfl,by simp⟩
  obtain ⟨⟨seen,shows,values⟩,-⟩ :=
    seen_accumulates moment own (fun _ query => nomatch query) targets steady
  refine ⟨here,passed,_,seen,moment,own,rfl,targets,steady,shows,?_⟩
  have front : nestedForward.way = .forward := rfl
  have behind : nestedInclude.way = .inclusion := rfl
  simp [values, Dispatched.merge, Dispatched.targetValues, front, behind, outer, inner, single]

end Program

end HttpRequest
