import HttpRequest.Proofs.Dispatch.Nest
import HttpRequest.Proofs.Request.Metadata
import HttpRequest.Proofs.Request.Parameters

/-! # The course of a request

From one state to a later one a request goes by operations and request lines, into the handlers of
dispatches and out of them again. Parameters are computed by three of the operations only. All that a
dispatch does to them, when it begins and when it ends, is to set those of the query and to drop the
merged view. So what holds of the parameters is followed along the course with one fact for each of the
three operations and one for all dispatches.
-/
namespace HttpRequest

open Request DispatchTarget

namespace Request

theorem beginInclude_params (r : Request) (t : DispatchTarget) :
    (r.beginInclude t).2.params = r.params ∨
      ∃ query, (r.beginInclude t).2.params = r.params.restoreQuery query := by
  cases t with
  | named name => exact .inl rfl
  | path uri contextPath pathInContext =>
    unfold beginInclude
    dsimp only
    split
    · exact .inl rfl
    · split
      next p merges => exact .inr ⟨some p,rfl⟩
      · exact .inl rfl

theorem Merged.params_cases {r : Request} {way : DispatchWay} {target query : Option String} {params : ParamCache}
    (h : Merged r way target query params) : params = r.params ∨ ∃ query, params = r.params.restoreQuery query := by
  cases h with
  | nothing noTarget noQuery => exact .inl rfl
  | merged p => exact .inr ⟨some p,rfl⟩
  | given isError failed => exact .inl rfl

theorem accept_withMetadata [UriGrammar] (r : Request) (method target : String) (version : Version) (headers : Headers) :
    (Operation.accept r (r.withMetadata method target version headers)).params = r.params := by
  rw [withMetadata_eq]
  cases r.requestLine method target headers <;> rfl

end Request

namespace DispatchTarget
variable {E : Type} [ResponseControl E] {t : DispatchTarget} {way : DispatchWay} {s : Request × E}

theorem params_of_enter {called : Request × E} (entered : t.enter way s = .ok called) :
    called.1.params = s.1.params ∨ ∃ query, called.1.params = s.1.params.restoreQuery query := by
  cases way with
  | inclusion =>
    obtain ⟨-,rfl⟩ := enterInclude_eq_ok_iff.mp entered
    exact beginInclude_params s.1 t
  | forward | error =>
    have found := found_of_enter entered
    generalize called.1 = r at found
    cases found with
    | named name handsOver => exact .inl rfl
    | moved uri contextPath pathInContext handsOver merged => exact merged.params_cases

theorem params_of_not_entered {f : Failure} (refused : t.enter way s = .error f) (handler : Handler E) :
    (t.run way handler s).2.1.params = s.1.params ∨
      ∃ query, (t.run way handler s).2.1.params = s.1.params.restoreQuery query := by
  obtain ⟨after,ends,same | unmerged⟩ := run_of_not_entered refused
  · rw [ends, same]
    exact .inl rfl
  · rw [ends, unmerged]
    exact .inr ⟨s.1.params.query,rfl⟩

theorem params_of_leave (way : DispatchWay) (t : DispatchTarget) (caller : Request) (outcome : Outcome Unit)
    (s : Request × E) :
    ∃ query, (t.leave way caller (outcome,s)).2.1.params = s.1.params.restoreQuery query := by
  rw [leave_request]
  cases way <;> exact ⟨caller.params.query,rfl⟩

end DispatchTarget

namespace Request

variable {E : Type} [UriGrammar] [Body.ExternalSources E] [SessionStores E] [LoginServices E] [AttributeObservers E]
  [ResponseControl E]

/-- A request goes on from a state to another: operations are done and request lines taken, dispatches
call their handlers or fail to, and handlers end, in whatever way and whoever called them. -/
inductive GoesOn (s : Request × E) : Request × E → Prop
  | here : GoesOn s s
  | performed {t : Request × E} (op : Operation E) (before : GoesOn s t) : GoesOn s (op.run t)
  | described {t : Request × E} (method target : String) (version : Version) (headers : Headers)
      (before : GoesOn s t) :
      GoesOn s (Operation.accept t.1 (t.1.withMetadata method target version headers), t.2)
  | called {t inside : Request × E} {way : DispatchWay} {d : DispatchTarget} (before : GoesOn s t)
      (entered : d.enter way t = .ok inside) : GoesOn s inside
  | refused {t : Request × E} {way : DispatchWay} {d : DispatchTarget} {f : Failure} (before : GoesOn s t)
      (refused : d.enter way t = .error f) (handler : Handler E) : GoesOn s (d.run way handler t).2
  | returned {t : Request × E} (way : DispatchWay) (d : DispatchTarget) (caller : Request)
      (outcome : Outcome Unit) (before : GoesOn s t) : GoesOn s (d.leave way caller (outcome,t)).2

variable {s t : Request × E}

theorem GoesOn.dispatch {way : DispatchWay} {d : DispatchTarget} {handler : Handler E} (before : GoesOn s t)
    (inside : ∀ called, d.enter way t = .ok called → GoesOn s (handler d.text called).2) :
    GoesOn s (d.run way handler t).2 := by
  cases entered : d.enter way t with
  | ok called =>
    rw [run_of_enter entered]
    exact .returned way d t.1 _ (inside called entered)
  | error f => exact .refused before entered handler

theorem GoesOn.run (p : Program E) (before : GoesOn s t) : GoesOn s (p.run t).2 := by
  -- By induction on the program, the handlers of its dispatches included.
  induction p generalizing t with
  | done outcome => exact before
  | perform op next ih => exact ih _ _ (.performed op before)
  | dispatch way d handler next inner ih =>
    have ended : GoesOn s (d.run way (Program.handling handler) t).2 :=
      before.dispatch fun called entered => inner d.text (.called before entered)
    exact ih _ _ _ ended

theorem GoesOn.reaches {allowed : Operation E → Prop} {p : Program E} {here : Request × E}
    {nest : List (Entered E)} (m : p.Reaches allowed t nest here) (before : GoesOn s t) : GoesOn s here := by
  induction m with
  | now p t => exact before
  | @performed op next t here nest fine later ih => exact ih (.performed op before)
  | within entered inside ih => exact ih (.called before entered)
  | @returned way d handler next t after here outcome nest left fine later ih =>
    have ended : GoesOn s (d.run way (Program.handling handler) t).2 :=
      before.dispatch fun called entered => GoesOn.run (handler d.text) (.called before entered)
    rw [left] at ended
    exact ih ended

/-- What the three reads keep, and setting the parameters of the query keeps, holds along the course. -/
theorem GoesOn.params {I : ParamCache → Prop}
    (asked : ∀ s : Request × E, I s.1.params → I (queryParams.exec s).2.1.params)
    (looked : ∀ s : Request × E, I s.1.params → I (bodyParams.exec s).2.1.params)
    (merged : ∀ s : Request × E, I s.1.params → I (allParams.exec s).2.1.params)
    (restored : ∀ c query, I c → I (c.restoreQuery query)) (on : GoesOn s t) (start : I s.1.params) :
    I t.1.params := by
  have dispatched {before after : ParamCache} (same : after = before ∨ ∃ query, after = before.restoreQuery query)
      (h : I before) : I after := by
    rcases same with rfl | ⟨query,rfl⟩
    · exact h
    · exact restored before query h
  induction on with
  | here => exact start
  | @performed t op before ih =>
    rcases op.params_of_run t with same | same | same | same
    · exact same ▸ ih
    · exact same ▸ asked t ih
    · exact same ▸ looked t ih
    · exact same ▸ merged t ih
  | described method target version headers before ih =>
    rw [accept_withMetadata]
    exact ih
  | called before entered ih => exact dispatched (params_of_enter entered) ih
  | refused before refused handler ih => exact dispatched (params_of_not_entered refused handler) ih
  | returned way d caller outcome before ih => exact dispatched (.inr (params_of_leave way d caller outcome _)) ih

end Request

end HttpRequest
