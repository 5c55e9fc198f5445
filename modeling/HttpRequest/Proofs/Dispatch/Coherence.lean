import HttpRequest.Proofs.Dispatch.Course
import HttpRequest.Proofs.Param.Merge
import HttpRequest.Scripted.Collaborators

/-! # Coherence of computed parameters

A merged view that is stored is always the merge of the parameters that are stored beside it. Every
operation keeps it so, failed reads included. A dispatch that gives the query new parameters drops the
view, and one that puts the old ones back drops it again, so nothing that happens in between matters.
-/
namespace HttpRequest

open Request DispatchTarget

namespace Request

section Course

variable {E : Type} [UriGrammar] [Body.ExternalSources E] [SessionStores E] [LoginServices E] [AttributeObservers E]
  [ResponseControl E]

/-- The states in which a request may stand from the time that it is made, through recycling and the
requests that follow. -/
inductive Reachable (settings : Settings) : Request × E → Prop
  | made (e : E) : Reachable settings (new settings, e)
  | on {s t : Request × E} (before : Reachable settings s) (on : GoesOn s t) : Reachable settings t
  | recycled {s : Request × E} (before : Reachable settings s) : Reachable settings (recycle s)

variable {settings : Settings} {s t : Request × E}

theorem GoesOn.coherent (on : GoesOn s t) (h : s.1.params.Coherent) : t.1.params.Coherent := by
  refine on.params (I := ParamCache.Coherent) ?_ ?_ ?_ ?_ h
  · exact fun _ => queryParams_coherent
  · exact fun _ => bodyParams_coherent
  · exact fun _ => allParams_coherent
  · exact fun c query _ => ParamCache.coherent_of_unmerged rfl

theorem Reachable.coherent (reached : Reachable settings s) : s.1.params.Coherent := by
  induction reached with
  | made e => exact ParamCache.coherent_of_unmerged rfl
  | on before on ih => exact on.coherent ih
  | recycled before ih => exact ParamCache.coherent_of_unmerged rfl

/-- In every state a merged view that is stored was made of stored parameters of the query and of a body
that was looked at, and is what they give; so whenever the merged view is given out, every name has the
values of the query that are stored then, and behind them those of the body. -/
theorem params_coherent (reached : Reachable settings s) :
    s.1.params.Coherent ∧ ∀ p, (allParams.exec s).1 = .ok p →
      ∃ q, (allParams.exec s).2.1.params.query = some q ∧
        (allParams.exec s).2.1.params.bodyTried = true ∧ ∀ name,
          p.values name = q.values name ++
            ((allParams.exec s).2.1.params.body.getD .empty).values name := by
  have coherent := reached.coherent
  refine ⟨coherent,?_⟩
  intro p got
  obtain ⟨known,tried,merge⟩ := allParams_coherent coherent p (allParams_merged got)
  obtain ⟨q,stored⟩ := Option.isSome_iff_exists.mp known
  refine ⟨q,stored,tried,?_⟩
  intro name
  rw [merge, ParamCache.combined, stored, Params.values_merge]
  rfl

end Course

open CommonGrammar

def partOf (query : String) : DispatchTarget :=
  .path { path := "/part", query := some query } "" "/part"

/-- Inside an include that read its parameters and merged them, a further one merges anew and sees its
own value behind. -/
theorem partOf_coherent : ∃ outer inner s : Request × Scripted.Environment Unit,
    (partOf "x=1").enter .inclusion (new {},{ kept := () }) = .ok outer ∧
    (partOf "x=2").enter .inclusion (Operation.readParams.run outer) = .ok inner ∧
    s = Operation.readParams.run inner ∧ Reachable {} s ∧ s.1.params.Coherent ∧
      ∃ p, s.1.params.merged = some p ∧ (allParams.exec s).1 = .ok p ∧ p.values "x" = ["1","2"] := by
  let start : Request × Scripted.Environment Unit := (new {},{ kept := () })
  let shown := (Params.ofTable (ParamTable.add ∅ "x" "1")).mergeInclude (.ofTable (ParamTable.add ∅ "x" "2"))
  have outer : GoesOn start (Operation.readParams.run _) := .performed .readParams
    (.called .here (rfl : (partOf "x=1").enter .inclusion start = .ok _))
  have inner : GoesOn start (Operation.readParams.run _) := .performed .readParams
    (.called outer (rfl : (partOf "x=2").enter .inclusion _ = .ok _))
  have inner : Reachable {} (Operation.readParams.run _) := .on (.made start.2) inner
  obtain ⟨coherent,gives⟩ := params_coherent inner
  obtain ⟨q,stored,-,values⟩ := gives (shown.merge .empty) rfl
  refine ⟨_,_,_,rfl,rfl,rfl,inner,coherent,_,rfl,rfl,?_⟩
  have query : q = shown := (Option.some.inj stored).symm
  have both : shown.values "x" = ["1","2"] := by
    simp [shown, Params.mergeInclude, Params.values_merge, ParamTable.values_add]
  exact (values "x").trans (query ▸ congrArg (· ++ []) both)

end Request

end HttpRequest
