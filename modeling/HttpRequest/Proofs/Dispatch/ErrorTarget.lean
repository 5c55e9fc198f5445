import HttpRequest.Proofs.Dispatch.Accumulation
import HttpRequest.Proofs.Dispatch.Entry

/-! # What an error handler sees of its target

An error dispatch goes on to its handler although the parameters cannot be merged. As its target
decodes, the fault is then in the query that the request came with, and nothing is stored. What the
handler sees is the query that the request has now, which is that of the target, but it is decoded when
it is asked for, and in the encoding of the request.
-/
namespace HttpRequest

namespace Request

theorem decodeQuery_filter (query : Option String) (charset : Charset) :
    decodeQuery (query.filter (· ≠ "")) charset = decodeQuery query charset := by
  cases query with
  | none => rfl
  | some text =>
    by_cases blank : text = ""
    · subst blank
      rfl
    · have kept : (some text).filter (· ≠ "") = some text := by simp [Option.filter, blank]
      rw [kept]

/-- The request shows these parameters in whatever encoding its query is read. -/
def Settled (r : Request) (q : Params) : Prop :=
  ∀ queryCharset, { r with queryCharset }.seenQuery = .ok q

namespace Settled
variable {before after : Request} {q : Params}

theorem seen (h : before.Settled q) : before.seenQuery = .ok q :=
  h before.queryCharset

theorem of_known (shown : before.seenQuery = .ok q)
    (known : before.params.query.isSome ∨ before.queryString? = none) : before.Settled q := by
  intro queryCharset
  cases stored : before.params.query with
  | some p =>
    simp only [seenQuery, stored] at shown ⊢
    exact shown
  | none =>
    have noQuery : before.queryString? = none := known.resolve_left (by simp [stored])
    have noQuery' : { before with queryCharset }.queryString? = none := noQuery
    simp only [seenQuery, stored, noQuery] at shown
    simp only [seenQuery, stored, noQuery']
    exact shown

theorem congr (h : before.Settled q) (query : after.params.query = before.params.query)
    (uri : after.uri = before.uri) : after.Settled q := by
  intro queryCharset
  rw [← h queryCharset]
  exact seenQuery_congr query uri rfl

theorem looked (h : before.Settled q) (looked : Looked before after) : after.Settled q := by
  cases stored : after.params.query with
  | some p => exact of_known (looked.seen.trans h.seen) (.inl (by simp [stored]))
  | none =>
    have unstored : before.params.query = none := by
      rw [← Option.not_isSome_iff_eq_none]
      intro known
      have kept := looked.computed known
      rw [stored] at kept
      simp [← kept] at known
    exact h.congr (stored.trans unstored.symm) looked.stage.uri

end Settled

/-- An error dispatch of a request that shows no parameters goes on with nothing but the query of the
target, in the encoding of the request. -/
theorem beginForward_unseen {r : Request} {uri : Uri} {target : Params} {f : Failure}
    (failed : r.seenQuery = .error f) (decoded : decodeQuery uri.query .utf8 = .ok target)
    (contextPath pathInContext : String) :
    (r.beginForward .error (.path uri contextPath pathInContext)).1 = .ok () ∧
      (r.beginForward .error (.path uri contextPath pathInContext)).2.seenQuery =
        decodeQuery uri.query r.queryEncoding := by
  have unstored : r.params.query = none := by
    cases stored : r.params.query with
    | none => rfl
    | some p => simp [seenQuery, stored] at failed
  have fails : decodeQuery r.queryString? r.queryEncoding = .error f := by
    simpa only [seenQuery, unstored] using failed
  obtain ⟨query,own⟩ : ∃ query, r.queryString? = some query := by
    cases own : r.queryString? with
    | none =>
      rw [own] at fails
      cases fails
    | some query => exact ⟨query,rfl⟩
  obtain ⟨base,isBase⟩ : ∃ base, base = { r with kind := .error } := ⟨_,rfl⟩
  have merge : (base.moveTo uri contextPath pathInContext).mergeParams base.queryString? uri.query
      Params.mergeForward = .error f := by
    have previous : (base.moveTo uri contextPath pathInContext).previousParams base.queryString? = .error f := by
      rw [← fails, isBase]
      simp only [previousParams, moveTo, unstored]
      rfl
    simp only [mergeParams, decoded, previous]
  have moves : base.moveAndMerge uri contextPath pathInContext =
      (.error f,base.moveTo uri contextPath pathInContext) := by
    have own : base.queryString? = some query := by rw [isBase]; exact own
    unfold moveAndMerge
    dsimp only
    rw [merge, own, Option.isNone_some, Bool.and_false, if_neg Bool.false_ne_true]
  unfold beginForward
  dsimp only
  rw [← isBase, moves]
  refine ⟨rfl,?_⟩
  subst isBase
  rw [← decodeQuery_filter]
  simp only [if_true, seenQuery, moveTo, unstored]
  rfl

end Request

open Request DispatchTarget

namespace DispatchTarget

variable {E : Type} [ResponseControl E] {uri : Uri} {contextPath pathInContext : String}
  {s called : Request × E} {target own : Params}

/-- When the request shows parameters, its own are merged into what the error handler sees, and stay
whatever encoding is chosen. -/
theorem settled_of_enter (entered : (path uri contextPath pathInContext).enter .error s = .ok called)
    (decoded : decodeQuery uri.query .utf8 = .ok target) (shown : s.1.seenQuery = .ok own) :
    ∃ seen, called.1.Settled seen ∧ ∀ name, seen.values name = target.values name ++ own.values name := by
  have found := found_of_enter entered
  have merges : s.1.mergeParams s.1.queryString? uri.query Params.mergeForward =
      .ok (target.mergeForward own) := mergeParams_of_seen rfl rfl shown decoded _
  obtain ⟨seen,shows,values⟩ := seen_of_enter entered shown decoded
  have known : called.1.params.query.isSome ∨ called.1.queryString? = none := by
    generalize called.1 = r at found
    cases found with
    | moved uri contextPath pathInContext handsOver merged =>
      cases merged with
      | nothing noTarget noQuery => exact .inr rfl
      | merged p => exact .inl rfl
      | given isError failed =>
        rw [merges] at failed
        cases failed
  have front (name : String) : Dispatched.targetValues ⟨.error,path uri contextPath pathInContext⟩ name =
      target.values name := by
    have decoded : decodeQuery (path uri contextPath pathInContext).query? .utf8 = .ok target := decoded
    simp only [Dispatched.targetValues, decoded]
  refine ⟨seen,.of_known shows known,?_⟩
  intro name
  rw [values name, Dispatched.merge, front name]

theorem enter_error (decoded : decodeQuery uri.query .utf8 = .ok target) (contextPath pathInContext : String)
    (goes : refusal .error s.2 = none) :
    ∃ called, (path uri contextPath pathInContext).enter .error s = .ok called := by
  cases seen : s.1.seenQuery with
  | ok own => exact enter_of_seen seen decoded goes
  | error f =>
    obtain ⟨left,reset⟩ := reset_of_goes goes
    have begun := (beginForward_unseen seen decoded contextPath pathInContext).1
    exact ⟨_,enterForward_eq_ok_iff.mpr ⟨left,reset,begun,rfl⟩⟩

theorem encoding_of_enter {t : DispatchTarget} {way : DispatchWay} (entered : t.enter way s = .ok called) :
    called.1.queryEncoding = s.1.queryEncoding := by
  have found := found_of_enter entered
  generalize called.1 = r at found ⊢
  cases found <;> rfl

theorem unseen_of_enter {f : Failure}
    (entered : (path uri contextPath pathInContext).enter .error s = .ok called)
    (decoded : decodeQuery uri.query .utf8 = .ok target) (failed : s.1.seenQuery = .error f) :
    called.1.seenQuery = decodeQuery uri.query s.1.queryEncoding := by
  obtain ⟨left,-,-,rfl⟩ := enterForward_eq_ok_iff.mp entered
  exact (beginForward_unseen failed decoded contextPath pathInContext).2

end DispatchTarget

namespace Program

variable {E : Type} [Body.ExternalSources E] [SessionStores E] [LoginServices E]
  [AttributeObservers E] [ResponseControl E] {p : Program E} {s here : Request × E}
  {passed : List (Request × E)}

/-- What every operation of a handler keeps, and every dispatch of it that is over, holds as long as the
handler runs. The states that it passes are those that it stands in itself. -/
theorem Moment.carried {I : Request → Prop} (m : p.Moment s [] passed here)
    (operation : ∀ (op : Operation E) s, s ∈ passed → op.run s ∈ passed → I s.1 → I (op.run s).1)
    (ended : ∀ way (t : DispatchTarget) programs s, s ∈ passed → (t.run way (handling programs) s).2 ∈ passed →
      I s.1 → I (t.run way (handling programs) s).2.1)
    (start : I s.1) : I here.1 := by
  generalize outermost : ([] : List Dispatched) = nest at m
  induction m with
  | now p s => exact start
  | @performed op next s here nest passed later ih =>
    have next := operation op s (.head passed) (.tail s later.first_mem) start
    refine ih ?_ ?_ next outermost
    · exact fun op t mem after => operation op t (.tail s mem) (.tail s after)
    · exact fun way t programs u mem after => ended way t programs u (.tail s mem) (.tail s after)
  | within entered inside ih => cases outermost
  | @returned way t handler next s after here outcome nest passed left later ih =>
    have next : I after.1 := by
      have kept := ended way t handler s (.head passed)
      rw [left] at kept
      exact kept (.tail s later.first_mem) start
    refine ih ?_ ?_ next outermost
    · exact fun op t mem after => operation op t (.tail s mem) (.tail s after)
    · exact fun way t programs u mem after => ended way t programs u (.tail s mem) (.tail s after)

theorem Moment.settled (m : p.Moment s [] passed here) {q : Params} (h : s.1.Settled q) : here.1.Settled q := by
  refine m.carried (I := (·.Settled q)) ?_ ?_ h
  · intro op s _ _ shown
    exact (op.looked_or_apart s).elim shown.looked fun apart =>
      shown.congr (congrArg ParamCache.query apart.params) apart.stage.uri
  · intro way t programs s _ _ shown
    exact shown.congr (query_run way t programs s) (run_stage (keeps_handling programs) s).uri

theorem Moment.seenQuery_eq (m : p.Moment s [] passed here)
    (steady : ∀ t ∈ passed, t.1.queryEncoding = s.1.queryEncoding) : here.1.seenQuery = s.1.seenQuery := by
  refine m.carried (I := (·.seenQuery = s.1.seenQuery)) ?_ ?_ rfl
  · intro op t mem after shown
    exact (op.run_seenQuery t ((steady _ after).trans (steady t mem).symm)).trans shown
  · intro way target programs t mem after shown
    exact (seenQuery_run way target programs t ((steady _ after).trans (steady t mem).symm)).trans shown

/-- An error dispatch to a path whose query decodes calls its handler unless the response refuses it. If
the request's own parameters were computed already or decode, or if its query is read as UTF-8, the
handler sees the values of the target first, whatever it does before. If they do not decode, it sees the
query of the target in the encoding of the request. -/
theorem errorTarget_seen {uri : Uri} {target : Params} (decoded : decodeQuery uri.query .utf8 = .ok target)
    (contextPath pathInContext : String) (goes : refusal .error s.2 = none) :
    ∃ called, (path uri contextPath pathInContext).enter .error s = .ok called ∧
      (∀ handler : Handler E, (path uri contextPath pathInContext).run .error handler s =
        (path uri contextPath pathInContext).leave .error s.1
          (handler (path uri contextPath pathInContext).text called)) ∧
      ∀ {p : Program E} {passed here}, p.Moment called [] passed here →
        ((∃ own, s.1.seenQuery = .ok own) ∨ (∀ t ∈ passed, t.1.queryEncoding = .utf8) →
          ∃ seen, (queryParams.exec here).1 = .ok seen ∧
            ∀ name, target.values name <+: seen.values name) ∧
        ((∀ own, s.1.seenQuery ≠ .ok own) → (∀ t ∈ passed, t.1.queryEncoding = s.1.queryEncoding) →
          (queryParams.exec here).1 = decodeQuery uri.query s.1.queryEncoding) := by
  obtain ⟨called,entered⟩ := enter_error decoded contextPath pathInContext goes
  refine ⟨called,entered,run_of_enter entered,?_⟩
  intro p passed here m
  have asked : (queryParams.exec here).1 = here.1.seenQuery := by rw [queryParams_exec here.1 here.2]
  rw [asked]
  cases shown : s.1.seenQuery with
  | ok own =>
    obtain ⟨seen,settled,values⟩ := settled_of_enter entered decoded shown
    refine ⟨fun _ => ⟨seen,(m.settled settled).seen,?_⟩,fun undecoded => absurd rfl (undecoded own)⟩
    intro name
    exact ⟨_,(values name).symm⟩
  | error f =>
    have left := unseen_of_enter entered decoded shown
    have stays (steady : ∀ t ∈ passed, t.1.queryEncoding = s.1.queryEncoding) :
        here.1.seenQuery = decodeQuery uri.query s.1.queryEncoding := by
      rw [← left]
      exact m.seenQuery_eq fun t mem => (steady t mem).trans (steady called m.first_mem).symm
    refine ⟨?_,fun _ => stays⟩
    rintro (⟨own,missing⟩ | utf8)
    · cases missing
    · have same : s.1.queryEncoding = .utf8 := (encoding_of_enter entered).symm.trans (utf8 called m.first_mem)
      refine ⟨target,?_,fun name => List.prefix_rfl⟩
      rw [stays (fun t mem => (utf8 t mem).trans same.symm), same, decoded]

def latinVisit (query : String) : Request × Scripted.Environment Unit :=
  ({ uri := some { path := "/app/a", query := some query }, queryCharset := some .latin1, body := .new 30000 },
    { kept := () })

def accentPage : Uri :=
  { path := "/app/b", query := some "x=%C3%A9" }

theorem accentPage_read {charset : Charset} {name value : String} (readsName : charset.decode? [0x78] = some name)
    (readsValue : charset.decode? [0xC3,0xA9] = some value) :
    decodeQuery accentPage.query charset = .ok (.ofTable (ParamTable.add ∅ name value)) := by
  have cut : Form.rawPairs (octetsOf "x=%C3%A9") = [([0x78],[0x25,0x43,0x33,0x25,0x41,0x39])] := by
    decide +kernel
  have nameFormed : Escape.wellFormed [0x78] = true := by decide
  have valueFormed : Escape.wellFormed [0x25,0x43,0x33,0x25,0x41,0x39] = true := by decide
  have plainName : Escape.undo (Escape.plusToSpace [0x78]) = [0x78] := by decide
  have plainValue : Escape.undo (Escape.plusToSpace [0x25,0x43,0x33,0x25,0x41,0x39]) = [0xC3,0xA9] := by decide
  simp only [accentPage, decodeQuery, Form.decodeQuery, Form.decode, Form.decodeInto, cut, Form.addPairs,
    Form.pair, Form.component, nameFormed, valueFormed, if_true, plainName, plainValue, readsName, readsValue,
    Form.within]

theorem accentPage_utf8 : decodeQuery accentPage.query .utf8 = .ok (.ofTable (ParamTable.add ∅ "x" "é")) :=
  accentPage_read (by decide +kernel) (by decide +kernel)

theorem accentPage_latin1 :
    decodeQuery accentPage.query .latin1 = .ok (.ofTable (ParamTable.add ∅ "x" "Ã©")) :=
  accentPage_read (by decide +kernel) (by decide +kernel)

/-- The own query decodes, so that the handler sees the character that the target means. -/
theorem latinVisit_seen : refusal .error (latinVisit "x=1").2 = none ∧
    (latinVisit "x=1").1.seenQuery = .ok (.ofTable (ParamTable.add ∅ "x" "1")) ∧
    ∃ called, (path accentPage "/app" "/b").enter .error (latinVisit "x=1") = .ok called ∧
      ∃ seen, (queryParams.exec called).1 = .ok seen ∧ ["é"] <+: seen.values "x" := by
  have goes : refusal .error (latinVisit "x=1").2 = none := rfl
  have own : (latinVisit "x=1").1.seenQuery = .ok (.ofTable (ParamTable.add ∅ "x" "1")) := rfl
  obtain ⟨called,entered,-,sees⟩ := errorTarget_seen accentPage_utf8 "/app" "/b" goes
  obtain ⟨seen,shows,front⟩ := (sees (.now (.done (.ok ())) called)).1 (.inl ⟨_,own⟩)
  refine ⟨goes,own,called,entered,seen,shows,?_⟩
  simpa [ParamTable.values_add] using front "x"

/-- The own query does not decode, and the handler sees two characters in place of the one that the
target means. -/
theorem latinVisit_unseen : ∃ called target seen,
    (path accentPage "/app" "/b").enter .error (latinVisit "x=%zz") = .ok called ∧
    decodeQuery accentPage.query .utf8 = .ok target ∧ target.values "x" = ["é"] ∧
    (queryParams.exec called).1 = .ok seen ∧ seen.values "x" = ["Ã©"] ∧
    ¬ target.values "x" <+: seen.values "x" := by
  have meant : (Params.ofTable (ParamTable.add ∅ "x" "é")).values "x" = ["é"] := by
    simp [ParamTable.values_add]
  have read : (Params.ofTable (ParamTable.add ∅ "x" "Ã©")).values "x" = ["Ã©"] := by
    simp [ParamTable.values_add]
  have goes : refusal .error (latinVisit "x=%zz").2 = none := rfl
  have broken : (latinVisit "x=%zz").1.seenQuery = .error (.badRequest "Bad query encoding") := rfl
  obtain ⟨called,entered⟩ := enter_error accentPage_utf8 "/app" "/b" goes
  have shows : (queryParams.exec called).1 = .ok (.ofTable (ParamTable.add ∅ "x" "Ã©")) := by
    rw [queryParams_exec called.1 called.2]
    exact (unseen_of_enter entered accentPage_utf8 broken).trans accentPage_latin1
  refine ⟨called,_,_,entered,accentPage_utf8,meant,shows,read,?_⟩
  rw [meant, read]
  decide

end Program

end HttpRequest
