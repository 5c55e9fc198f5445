import HttpRequest.Proofs.Dispatch.Restoration

/-! # What the handler of a dispatch finds

One relation says what every kind of dispatch makes of a request before it calls its handler: which
parts it replaces and by what. All others are as the dispatch found them.
-/
namespace HttpRequest

def DispatchWay.kind : DispatchWay → DispatchKind
  | .inclusion => .include
  | .forward => .forward
  | .error => .error

namespace Request

/-- The address and the parameters of a request that was moved. Parameters are merged if there is a
query, of the target or from before, which then stays. An error dispatch goes on without them. -/
inductive Merged (r : Request) (way : DispatchWay) (target : Option String) : Option String → ParamCache → Prop
  | nothing (noTarget : target = none) (noQuery : r.queryString? = none) : Merged r way target none r.params
  | merged (p : Params) :
      Merged r way target ((target.or r.queryString?).filter (· ≠ "")) { r.params with query := some p, merged := none }
  | given {f : Failure} (isError : way = .error)
      (failed : r.mergeParams r.queryString? target Params.mergeForward = .error f) :
      Merged r way target (target.filter (· ≠ "")) r.params

/-- What a handler finds, given the request that the dispatch found. -/
inductive Found (r : Request) : DispatchTarget → DispatchWay → Request → Prop
  | included (t : DispatchTarget) (record : DispatchRecord) {params : ParamCache}
      (known : params.query = none → r.params.query = none) :
      Found r t .inclusion { r with
        kind := .include
        attributes := if t.isPath then r.attributes.push .include record else r.attributes
        params }
  | named (name : String) {way : DispatchWay} (handsOver : way ≠ .inclusion) :
      Found r (.named name) way { r with kind := way.kind }
  | moved (uri : Uri) (contextPath pathInContext : String) {way : DispatchWay} (handsOver : way ≠ .inclusion)
      {query : Option String} {params : ParamCache} (merged : Merged r way uri.query query params) :
      Found r (.path uri contextPath pathInContext) way { r with
        kind := way.kind
        uri := some { r.uri.getD {} with path := uri.path, query }
        contextPath := some contextPath
        handlerPath := none
        pathInfo := some pathInContext
        mapping := none
        attributes := r.attributes.push .forward r.forwardRecord
        params }

theorem beginInclude_found (r : Request) (t : DispatchTarget) : Found r t .inclusion (r.beginInclude t).2 := by
  cases t with
  | named name => exact .included (.named name) {} id
  | path uri contextPath pathInContext =>
    have entry {params : ParamCache} (known : params.query = none → r.params.query = none) :=
      Found.included (.path uri contextPath pathInContext) (includeRecord uri contextPath pathInContext) known
    unfold beginInclude
    dsimp only
    split
    · exact entry id
    · split
      · exact entry nofun
      · exact entry id

theorem moveAndMerge_cases (r : Request) (uri : Uri) (contextPath pathInContext : String) :
    (∃ query params, (∀ way, Merged r way uri.query query params) ∧
      (r.moveAndMerge uri contextPath pathInContext).1 = .ok { r.moveTo uri contextPath pathInContext with
        uri := some { r.uri.getD {} with path := uri.path, query }
        params }) ∨
    ∃ f, r.mergeParams r.queryString? uri.query Params.mergeForward = .error f ∧
      r.moveAndMerge uri contextPath pathInContext = (.error f,r.moveTo uri contextPath pathInContext) := by
  have asMoved : (r.moveTo uri contextPath pathInContext).mergeParams r.queryString? uri.query Params.mergeForward =
      r.mergeParams r.queryString? uri.query Params.mergeForward := rfl
  unfold moveAndMerge
  dsimp only
  rw [asMoved]
  split
  next nothing =>
    obtain ⟨noTarget,noQuery⟩ := Bool.and_eq_true_iff.mp nothing
    rw [Option.isNone_iff_eq_none] at noTarget noQuery
    refine .inl ⟨none,r.params,fun way => .nothing noTarget noQuery,?_⟩
    simp [moveTo, Uri.withPathQuery, Uri.withQuery, noTarget]
  · cases merges : r.mergeParams r.queryString? uri.query Params.mergeForward with
    | error f => exact .inr ⟨f,rfl,rfl⟩
    | ok p =>
      refine .inl ⟨_,_,fun way => .merged p,?_⟩
      dsimp only
      split
      next noTarget =>
        rw [Option.isNone_iff_eq_none] at noTarget
        simp [moveTo, Uri.withPathQuery, Uri.withQuery, withQueryParams, noTarget]
      next target =>
        obtain ⟨query,given⟩ := Option.ne_none_iff_exists'.mp (by simpa using target)
        simp [moveTo, Uri.withPathQuery, Uri.withQuery, withQueryParams, given]

theorem Merged.ofKind {r : Request} {kind : DispatchKind} {way : DispatchWay} {target query : Option String}
    {params : ParamCache} (h : Merged { r with kind } way target query params) : Merged r way target query params := by
  cases h with
  | nothing noTarget noQuery => exact .nothing noTarget noQuery
  | merged p => exact .merged p
  | given isError failed => exact .given isError failed

theorem beginForward_found {r : Request} {way : DispatchWay} {t : DispatchTarget} (handsOver : way ≠ .inclusion)
    (begun : (r.beginForward way.kind t).1 = .ok ()) : Found r t way (r.beginForward way.kind t).2 := by
  cases t with
  | named name => exact .named name handsOver
  | path uri contextPath pathInContext =>
    obtain ⟨base,isBase⟩ : ∃ base, base = { r with kind := way.kind } := ⟨_,rfl⟩
    have found {query : Option String} {params : ParamCache} (merged : Merged base way uri.query query params) :=
      Found.moved uri contextPath pathInContext handsOver (isBase ▸ merged).ofKind
    unfold beginForward at begun ⊢
    dsimp only at begun ⊢
    rw [← isBase] at begun ⊢
    cases result : base.moveAndMerge uri contextPath pathInContext with
    | mk moved left =>
      rw [result] at begun
      rcases moveAndMerge_cases base uri contextPath pathInContext with
        ⟨query,params,merged,moves⟩ | ⟨f,failed,stays⟩
      · rw [result] at moves
        cases moves
        subst isBase
        exact found (merged way)
      · rw [result] at stays
        cases stays
        dsimp only at begun ⊢
        split at begun
        next isError =>
          have errs : way = .error := by cases way <;> simp_all [DispatchWay.kind]
          subst isBase
          rw [if_pos isError]
          exact found (.given errs failed)
        · cases begun

theorem Found.kept {r called : Request} {t : DispatchTarget} {way : DispatchWay} (found : Found r t way called) :
    called.body = r.body ∧ called.settings = r.settings := by
  cases found <;> exact ⟨rfl,rfl⟩

end Request

open Request

theorem DispatchTarget.found_of_enter {E : Type} [ResponseControl E] {t : DispatchTarget} {way : DispatchWay}
    {s called : Request × E} (entered : t.enter way s = .ok called) : Found s.1 t way called.1 := by
  cases way with
  | inclusion =>
    obtain ⟨-,rfl⟩ := enterInclude_eq_ok_iff.mp entered
    exact beginInclude_found s.1 t
  | forward =>
    obtain ⟨_,-,begun,rfl⟩ := enterForward_eq_ok_iff.mp entered
    have handsOver : DispatchWay.forward ≠ .inclusion := by decide
    exact beginForward_found handsOver begun
  | error =>
    obtain ⟨_,-,begun,rfl⟩ := enterForward_eq_ok_iff.mp entered
    have handsOver : DispatchWay.error ≠ .inclusion := by decide
    exact beginForward_found handsOver begun

end HttpRequest
