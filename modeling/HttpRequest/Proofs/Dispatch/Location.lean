import HttpRequest.Proofs.Dispatch.Nest
import HttpRequest.Proofs.Request.Standing
import HttpRequest.Scripted.Collaborators

/-! # Where a request is inside a nest

Only a forward and an error dispatch to a path move a request, and each move replaces the paths and
keeps scheme, host and port. The query goes with the request until a target has one of its own; at
every move an empty query becomes absent. An error dispatch whose parameters cannot be merged would
lose the query, and where the queries decode there is none: a query that is not decoded yet is the
request's own.
-/
namespace HttpRequest

/-- Targets as they come to be: by a path with an optional query inside a context, or by a name. -/
inductive DispatchTarget.Made : DispatchTarget → Prop
  | path (contextPath target : String) : Made (.forPath contextPath target)
  | named (name : String) : Made (.named name)

theorem DispatchTarget.Made.query?_ne {t : DispatchTarget} (made : t.Made) : t.query? ≠ some "" := by
  cases made with
  | path contextPath target =>
    intro empty
    have kept := (Option.filter_eq_some_iff.mp (show ((Path.splitQuery target).2.filter (· ≠ "")) = some "" from empty)).2
    simp at kept
  | named name => nofun

def Operation.LeavesPlace {E : Type} : Operation E → Prop
  | setContextPath _ | setHandlerPath _ | setPathInfo _ | setMapping _ => False
  | _ => True

namespace Request

structure SameLocation (before after : Request) : Prop extends SamePlace before after where
  kind : after.kind = before.kind
  uri : after.uri = before.uri
  computed : after.params.query = none → before.params.query = none

end Request

open Request DispatchTarget

namespace Program

theorem frame_sameLocation {E : Type} [Body.ExternalSources E] [SessionStores E] [LoginServices E]
    [AttributeObservers E] : Frame (E := E) Operation.LeavesPlace SameLocation where
  refl r := ⟨⟨rfl,rfl,rfl,rfl⟩,rfl,rfl,id⟩
  trans a b c first second :=
    ⟨⟨second.contextPath.trans first.contextPath,second.handlerPath.trans first.handlerPath,
      second.pathInfo.trans first.pathInfo,second.mapping.trans first.mapping⟩,
      second.kind.trans first.kind,second.uri.trans first.uri,first.computed ∘ second.computed⟩
  operation op s leaves := by
    have changed := op.run_standing s
    have place : SamePlace s.1 (op.run s).1 := by
      have context := congrArg Standing.contextPath changed
      have handler := congrArg Standing.handlerPath changed
      have info := congrArg Standing.pathInfo changed
      have mapping := congrArg Standing.mapping changed
      cases op <;> first
        | exact leaves.elim
        | exact ⟨context,handler,info,mapping⟩
    exact ⟨place,(op.run_stage s).kind,(op.run_stage s).uri,op.run_computed s⟩
  unmerged r := ⟨⟨rfl,rfl,rfl,rfl⟩,rfl,rfl,id⟩
  restored := by
    intro way t before called left found kept
    cases way with
    | inclusion =>
      -- an include puts no paths back, so it hangs on its handler that they are as before
      cases found with
      | included t layer known =>
        cases t <;> exact ⟨⟨kept.contextPath,kept.handlerPath,kept.pathInfo,kept.mapping⟩,rfl,kept.uri,id⟩
      | named name handsOver => exact absurd rfl handsOver
      | moved uri contextPath pathInContext handsOver merged => exact absurd rfl handsOver
    | forward | error => exact ⟨⟨rfl,rfl,rfl,rfl⟩,rfl,rfl,id⟩

end Program

section Nest
variable {E : Type}

def Entered.moves (d : Entered E) : Bool :=
  d.target.isPath && d.way != .inclusion

def lastMove (nest : List (Entered E)) : Option (Entered E) :=
  (nest.filter (·.moves)).getLast?

/-- The last query that came with a move. -/
def lastQuery (nest : List (Entered E)) : Option String :=
  ((nest.filter (·.moves)).filterMap (·.target.query?)).getLast?

/-- What becomes of the request's own query. -/
def ownQuery (own : Request) (nest : List (Entered E)) : Option String :=
  if (lastMove nest).isSome then own.queryString?.filter (· ≠ "") else own.queryString?

/-- Where a request is inside a nest, given the request outside. -/
structure Located (own : Request) (nest : List (Entered E)) (r : Request) : Prop where
  kind : r.kind = nest.getLast?.elim own.kind (·.way.kind)
  scheme : r.uri.bind (·.scheme) = own.uri.bind (·.scheme)
  host : r.uri.bind (·.host) = own.uri.bind (·.host)
  port : r.uri.bind (·.port) = own.uri.bind (·.port)
  requestUri : r.requestUri? = (lastMove nest).elim own.requestUri? fun d => d.target.uri?.map (·.path)
  contextPath : r.contextPath = (lastMove nest).elim own.contextPath (·.target.contextPath?)
  handlerPath : r.handlerPath = (lastMove nest).elim own.handlerPath fun _ => none
  pathInfo : r.pathInfo = (lastMove nest).elim own.pathInfo (·.target.pathInContext?)
  mapping : r.mapping = (lastMove nest).elim own.mapping fun _ => none
  query : r.queryString? = (lastQuery nest).or (ownQuery own nest)

/-- The queries that meet in a dispatch decode: that of the target, and the request's own unless that
is decoded already. -/
structure Entered.Decodes (own : Request) (d : Entered E) : Prop where
  target : ∃ q, decodeQuery d.target.query? .utf8 = .ok q
  own : d.before.1.params.query.isSome ∨ ∃ q, decodeQuery own.queryString? d.before.1.queryEncoding = .ok q

theorem filter_moves_concat (nest : List (Entered E)) (d : Entered E) :
    (nest ++ [d]).filter (·.moves) = nest.filter (·.moves) ++ if d.moves then [d] else [] := by
  rw [List.filter_append]
  cases moves : d.moves <;> simp [moves]

section Stays
variable {nest : List (Entered E)} {d : Entered E} (stays : d.moves = false)
include stays

theorem lastMove_of_stays : lastMove (nest ++ [d]) = lastMove nest := by
  rw [lastMove, filter_moves_concat, stays]
  simp [lastMove]

theorem lastQuery_of_stays : lastQuery (nest ++ [d]) = lastQuery nest := by
  rw [lastQuery, filter_moves_concat, stays]
  simp [lastQuery]

theorem ownQuery_of_stays (own : Request) : ownQuery own (nest ++ [d]) = ownQuery own nest := by
  rw [ownQuery, lastMove_of_stays stays, ownQuery]

end Stays

section Moves
variable {nest : List (Entered E)} {d : Entered E} (moves : d.moves = true)
include moves

theorem lastMove_of_moves : lastMove (nest ++ [d]) = some d := by
  rw [lastMove, filter_moves_concat, moves]
  simp

theorem lastQuery_of_moves : lastQuery (nest ++ [d]) = d.target.query?.or (lastQuery nest) := by
  rw [lastQuery, filter_moves_concat, moves]
  cases query : d.target.query? <;> simp [lastQuery, query]

theorem ownQuery_of_moves (own : Request) : ownQuery own (nest ++ [d]) = (ownQuery own nest).filter (· ≠ "") := by
  rw [ownQuery, lastMove_of_moves moves, Option.isSome_some, if_pos rfl, ownQuery]
  split
  · rw [Option.filter_filter]
    simp
  · rfl

end Moves

theorem lastQuery_ne {nest : List (Entered E)} (made : ∀ d ∈ nest, d.target.Made) : lastQuery nest ≠ some "" := by
  intro empty
  obtain ⟨d,mem,query⟩ := List.mem_filterMap.mp (List.mem_of_getLast? empty)
  exact (made d (List.mem_filter.mp mem |>.1)).query?_ne query

end Nest

namespace Located
variable {E : Type} {own : Request} {outer : List (Entered E)}

theorem start (own : Request) : Located own ([] : List (Entered E)) own := by
  constructor <;> rfl

theorem carry {r later : Request} (same : SameLocation r later) (located : Located own outer r) :
    Located own outer later where
  kind := same.kind.trans located.kind
  scheme := (congrArg (·.bind (·.scheme)) same.uri).trans located.scheme
  host := (congrArg (·.bind (·.host)) same.uri).trans located.host
  port := (congrArg (·.bind (·.port)) same.uri).trans located.port
  requestUri := (congrArg (·.map (·.path)) same.uri).trans located.requestUri
  contextPath := same.contextPath.trans located.contextPath
  handlerPath := same.handlerPath.trans located.handlerPath
  pathInfo := same.pathInfo.trans located.pathInfo
  mapping := same.mapping.trans located.mapping
  query := (congrArg (·.bind (·.query)) same.uri).trans located.query

theorem enter_of_stays {d : Entered E} {called : Request} (stays : d.moves = false) (kind : called.kind = d.way.kind)
    (uri : called.uri = d.before.1.uri) (place : SamePlace d.before.1 called) (located : Located own outer d.before.1) :
    Located own (outer ++ [d]) called where
  kind := by rw [kind, List.getLast?_concat]; rfl
  scheme := (congrArg (·.bind (·.scheme)) uri).trans located.scheme
  host := (congrArg (·.bind (·.host)) uri).trans located.host
  port := (congrArg (·.bind (·.port)) uri).trans located.port
  requestUri := by
    rw [lastMove_of_stays stays]
    exact (congrArg (·.map (·.path)) uri).trans located.requestUri
  contextPath := by rw [lastMove_of_stays stays, place.contextPath, located.contextPath]
  handlerPath := by rw [lastMove_of_stays stays, place.handlerPath, located.handlerPath]
  pathInfo := by rw [lastMove_of_stays stays, place.pathInfo, located.pathInfo]
  mapping := by rw [lastMove_of_stays stays, place.mapping, located.mapping]
  query := by
    rw [lastQuery_of_stays stays, ownQuery_of_stays stays]
    exact (congrArg (·.bind (·.query)) uri).trans located.query

theorem query_of_moves {d : Entered E} (moves : d.moves = true) (made : ∀ e ∈ outer ++ [d], e.target.Made)
    (located : Located own outer d.before.1) :
    (d.target.query?.or d.before.1.queryString?).filter (· ≠ "") =
      (lastQuery (outer ++ [d])).or (ownQuery own (outer ++ [d])) := by
  have inner : d.target.query? ≠ some "" := (made d (by simp)).query?_ne
  have before : lastQuery outer ≠ some "" := lastQuery_ne fun e mem => made e (List.mem_append_left _ mem)
  rw [located.query, lastQuery_of_moves moves, ownQuery_of_moves moves]
  cases target : d.target.query? with
  | some q =>
    rw [target] at inner
    simpa [Option.filter] using inner
  | none =>
    cases last : lastQuery outer with
    | some q =>
      rw [last] at before
      simpa [Option.filter] using before
    | none => rfl

theorem enter_of_moves {uri : Uri} {contextPath pathInContext : String} {d : Entered E} {called : Request}
    {query : Option String} (target : d.target = .path uri contextPath pathInContext) (moves : d.moves = true)
    (located : Located own outer d.before.1) (kind : called.kind = d.way.kind)
    (address : called.uri = some { d.before.1.uri.getD {} with path := uri.path, query })
    (place : called.contextPath = some contextPath ∧ called.handlerPath = none ∧
      called.pathInfo = some pathInContext ∧ called.mapping = none)
    (known : query = (lastQuery (outer ++ [d])).or (ownQuery own (outer ++ [d]))) :
    Located own (outer ++ [d]) called where
  kind := by rw [kind, List.getLast?_concat]; rfl
  scheme := by
    rw [address, ← located.scheme]
    cases d.before.1.uri <;> rfl
  host := by
    rw [address, ← located.host]
    cases d.before.1.uri <;> rfl
  port := by
    rw [address, ← located.port]
    cases d.before.1.uri <;> rfl
  requestUri := by
    rw [lastMove_of_moves moves, requestUri?, address, Option.elim_some, target]
    rfl
  contextPath := by rw [lastMove_of_moves moves, place.1, Option.elim_some, target]; rfl
  handlerPath := by rw [lastMove_of_moves moves, place.2.1]; rfl
  pathInfo := by rw [lastMove_of_moves moves, place.2.2.1, Option.elim_some, target]; rfl
  mapping := by rw [lastMove_of_moves moves, place.2.2.2]; rfl
  query := by rw [queryString?, address, ← known]; rfl

end Located

theorem mergeParams_of_decodes {E : Type} {own : Request} {d : Entered E} (decodes : d.Decodes own)
    (pending : d.before.1.params.query = none → d.before.1.queryString? = own.queryString?)
    (merge : (target previous : Params) → Params) :
    ∃ p, d.before.1.mergeParams d.before.1.queryString? d.target.query? merge = .ok p := by
  obtain ⟨target,decoded⟩ := decodes.target
  obtain ⟨previous,shown⟩ : ∃ q, d.before.1.previousParams d.before.1.queryString? = .ok q := by
    unfold previousParams
    cases query : d.before.1.params.query with
    | some q => exact ⟨q,rfl⟩
    | none =>
      rcases decodes.own with known | ⟨q,read⟩
      · simp [query] at known
      · exact ⟨q,by rw [pending query]; exact read⟩
  exact ⟨merge target previous,by simp only [mergeParams, decoded, shown]⟩

/-- What is known of a request inside a nest: while nothing of its query is computed, the query is
still its own. -/
structure Tracked {E : Type} (own : Request) (nest : List (Entered E)) (r : Request) : Prop extends
    Located own nest r where
  pending : r.params.query = none → r.queryString? = own.queryString?

namespace Tracked
variable {E : Type} {own : Request} {outer : List (Entered E)}

theorem carry {r later : Request} (same : SameLocation r later) (tracked : Tracked own outer r) :
    Tracked own outer later := by
  refine ⟨tracked.toLocated.carry same,fun none => ?_⟩
  exact (congrArg (·.bind (·.query)) same.uri).trans (tracked.pending (same.computed none))

theorem enter {d : Entered E} {called : Request} (found : Found d.before.1 d.target d.way called)
    (made : ∀ e ∈ outer ++ [d], e.target.Made) (decodes : d.Decodes own) (tracked : Tracked own outer d.before.1) :
    Tracked own (outer ++ [d]) called := by
  have merges := mergeParams_of_decodes decodes tracked.pending Params.mergeForward
  have query (moves : d.moves = true) := tracked.toLocated.query_of_moves moves made
  obtain ⟨⟨way,target⟩,before⟩ := d
  dsimp only at found tracked merges query
  cases found with
  | included _ layer known =>
    exact ⟨tracked.toLocated.enter_of_stays (by simp [Entered.moves]) rfl rfl ⟨rfl,rfl,rfl,rfl⟩,
      tracked.pending ∘ known⟩
  | named name handsOver =>
    exact ⟨tracked.toLocated.enter_of_stays (by simp [Entered.moves, DispatchTarget.isPath]) rfl rfl ⟨rfl,rfl,rfl,rfl⟩,
      tracked.pending⟩
  | @moved uri contextPath pathInContext _ handsOver known params merged =>
    have moves : Entered.moves (E := E) ⟨⟨way,.path uri contextPath pathInContext⟩,before⟩ = true := by
      simp [Entered.moves, DispatchTarget.isPath, handsOver]
    cases merged with
    | nothing noTarget noQuery =>
      have formula : none = (uri.query.or before.1.queryString?).filter (· ≠ "") := by rw [noTarget, noQuery]; rfl
      refine ⟨tracked.toLocated.enter_of_moves rfl moves rfl rfl ⟨rfl,rfl,rfl,rfl⟩ (formula.trans (query moves)),?_⟩
      intro none
      rw [← tracked.pending none, noQuery]
      rfl
    | merged p =>
      exact ⟨tracked.toLocated.enter_of_moves rfl moves rfl rfl ⟨rfl,rfl,rfl,rfl⟩ (query moves),fun none => by cases none⟩
    | given isError failed =>
      obtain ⟨p,merged⟩ := merges
      cases failed.symm.trans merged

end Tracked

namespace Program

variable {E : Type} [Body.ExternalSources E] [SessionStores E] [LoginServices E]
  [AttributeObservers E] [ResponseControl E] {p : Program E} {s here : Request × E} {nest : List (Entered E)}

/-- Inside any nest of dispatches whose queries decode, the kind is that of the innermost dispatch and
the request is at the last path that it was moved to, or where it was at first, with the scheme, the
host and the port that it had, and with the last query of a move or else its own. A further dispatch
that calls its handler tells it the path in the context or the name. -/
theorem location_in_nest (m : p.Reaches Operation.LeavesPlace s nest here)
    (made : ∀ d ∈ nest, d.target.Made) (decodes : ∀ d ∈ nest, d.Decodes s.1) :
    Located s.1 nest here.1 ∧
    ∀ way (t : DispatchTarget) (handler : Handler E) called, t.enter way here = .ok called →
      ∃ text, some text = t.pathInContext?.or t.name? ∧
        t.run way handler here = t.leave way here.1 (handler text called) := by
  constructor
  · -- the nest grows on the way in, and what is known of it presupposes that its queries decode
    have start : (∀ d ∈ ([] : List (Entered E)), d.target.Made ∧ d.Decodes s.1) → Tracked s.1 ([] : List (Entered E)) s.1 :=
      fun _ => ⟨.start s.1,fun _ => rfl⟩
    have tracked := frame_sameLocation.reaches
      (I := fun outer r => (∀ d ∈ outer, d.target.Made ∧ d.Decodes s.1) → Tracked s.1 outer r)
      (fun same tracked fine => (tracked fine).carry same)
      (fun found tracked fine => (tracked fun d mem => fine d (List.mem_append_left _ mem)).enter found
        (fun d mem => (fine d mem).1) (fine _ (by simp)).2)
      m start
    exact (tracked fun d mem => ⟨made d mem,decodes d mem⟩).toLocated
  · intro way t handler called entered
    refine ⟨t.text,?_,run_of_enter entered handler⟩
    cases t <;> rfl

def shopStart : Request × Scripted.Environment Unit :=
  ({ uri := some { host := some "example.com", path := "/own", query := some "a=1" }
     handlerPath := some "/h"
     body := .new 30000 },{ kept := () })

def shopForward : Dispatched :=
  ⟨.forward,.path { path := "/shop/item", query := some "a=2" } "/shop" "/item"⟩

def shopFooter : Dispatched :=
  ⟨.inclusion,.named "footer"⟩

def shopVisit : Program (Scripted.Environment Unit) :=
  .dispatch shopForward.way shopForward.target
    (fun _ => .dispatch shopFooter.way shopFooter.target (fun _ => .done (.ok ())) fun _ _ _ => .done (.ok ()))
    fun _ _ _ => .done (.ok ())

/-- In the include the request is where the forward moved it. -/
theorem shopVisit_located : ∃ nest here, shopVisit.Reaches Operation.LeavesPlace shopStart nest here ∧
    nest.map (·.toDispatched) = [shopForward,shopFooter] ∧ (∀ d ∈ nest, d.target.Made) ∧
    (∀ d ∈ nest, d.Decodes shopStart.1) ∧ here.1.kind = .include ∧
    here.1.uri.bind (·.host) = some "example.com" ∧ here.1.requestUri? = some "/shop/item" ∧
    here.1.contextPath = some "/shop" ∧ here.1.handlerPath = none ∧ here.1.pathInfo = some "/item" ∧
    here.1.queryString? = some "a=2" := by
  have made : shopForward.target.Made := by
    have byPath : shopForward.target = .forPath "/shop" "/item?a=2" := by decide +kernel
    rw [byPath]
    exact .path "/shop" "/item?a=2"
  have own : decodeQuery shopStart.1.queryString? .utf8 = .ok (.ofTable (ParamTable.add ∅ "a" "1")) := rfl
  have target : decodeQuery shopForward.target.query? .utf8 = .ok (.ofTable (ParamTable.add ∅ "a" "2")) := rfl
  obtain ⟨inner,here,reaches,computed⟩ : ∃ inner here,
      shopVisit.Reaches Operation.LeavesPlace shopStart [⟨shopForward,shopStart⟩,⟨shopFooter,inner⟩] here ∧
        inner.1.params.query.isSome :=
    ⟨_,_,.within rfl (.within rfl (.now _ _)),rfl⟩
  have allMade : ∀ d ∈ [(⟨shopForward,shopStart⟩ : Entered _),⟨shopFooter,inner⟩], d.target.Made := by
    simp only [List.forall_mem_cons]
    exact ⟨made,.named "footer",by simp⟩
  have decode : ∀ d ∈ [(⟨shopForward,shopStart⟩ : Entered _),⟨shopFooter,inner⟩], d.Decodes shopStart.1 := by
    simp only [List.forall_mem_cons]
    exact ⟨⟨⟨_,target⟩,.inr ⟨_,own⟩⟩,⟨⟨_,rfl⟩,.inl computed⟩,by simp⟩
  obtain ⟨located,-⟩ := location_in_nest reaches allMade decode
  exact ⟨_,here,reaches,rfl,allMade,decode,located.kind,located.host,located.requestUri,located.contextPath,
    located.handlerPath,located.pathInfo,located.query⟩

end Program

end HttpRequest
