import HttpRequest.Proofs.Dispatch.Nest
import HttpRequest.Proofs.Request.Standing

/-! # Acts from outside while a handler runs

While a handler works, others may still hold handles of sources that it has nothing to do with: they
send to them, leave them, or raise their signals, at any time and as often as they like. A handler that
brings no such source into its request does not notice. Between any two of its steps, also inside of
the handlers that it dispatches to, it stands in the same state as without them, and it ends in the
same way.
-/
namespace HttpRequest

open Body Request

namespace Operation

variable {E : Type} {strange : Handle → Prop}

/-- The operation brings no strange source into the request. -/
def Own (strange : Handle → Prop) : Operation E → Prop
  | setSource source => ∀ h ∈ source.handle?, ¬strange h
  | useBody change => ∀ s, s.1.Apart strange → (change s).1.Apart strange
  | _ => True

def outside (act : OutsideAct) : Operation E :=
  .useBody fun s => (act.apply s.1,s.2)

section Bodies
variable [ExternalSources E]

variable [SessionStores E] [LoginServices E] [AttributeObservers E]

theorem run_apart {op : Operation E} (own : op.Own strange) {s : Request × E} (apart : s.1.body.Apart strange) :
    (op.run s).1.body.Apart strange := by
  cases rewires : op.mayRewire with
  | false => exact (run_wire rewires s).apart apart
  | true =>
    cases op with
    | setSource source => exact ⟨own,apart.watchers⟩
    | useBody change => exact own (s.1.body,s.2) apart
    | _ => cases rewires

theorem run_outside {act : OutsideAct} (outsider : strange act.handle) {s : Request × E}
    (apart : s.1.body.Apart strange) : (Operation.outside act).run s = s := by
  have unmoved := apart.unmoved outsider
  show ({ s.1 with body := act.apply s.1.body },s.2) = s
  rw [unmoved]

end Bodies

end Operation

open DispatchTarget

theorem DispatchTarget.apart_of_enter {E : Type} [ResponseControl E] {strange : Handle → Prop} {t : DispatchTarget}
    {way : DispatchWay} {s called : Request × E} (entered : t.enter way s = .ok called)
    (apart : s.1.body.Apart strange) : called.1.body.Apart strange := by
  have found : Found s.1 t way called.1 := found_of_enter entered
  rw [found.kept.1]
  exact apart

namespace Program

variable {E : Type} {strange : Handle → Prop}

/-- The second program is the first one, but before each step, and before the end, strangers may act
from outside, and what they do may depend on all that happened. -/
inductive Interrupted (strange : Handle → Prop) : Program E → Program E → Prop
  | done (outcome : Outcome Unit) : Interrupted strange (done outcome) (done outcome)
  | perform (op : Operation E) {next other : Request × E → Request × E → Program E}
      (later : ∀ before after, Interrupted strange (next before after) (other before after)) :
      Interrupted strange (perform op next) (perform op other)
  | dispatch (way : DispatchWay) (t : DispatchTarget) {handler disturbed : String → Program E}
      {next other : Outcome Unit → Request × E → Request × E → Program E}
      (inside : ∀ text, Interrupted strange (handler text) (disturbed text))
      (later : ∀ outcome before after, Interrupted strange (next outcome before after) (other outcome before after)) :
      Interrupted strange (dispatch way t handler next) (dispatch way t disturbed other)
  | outside (act : OutsideAct) (outsider : strange act.handle) {p : Program E}
      {other : Request × E → Request × E → Program E}
      (later : ∀ before after, Interrupted strange p (other before after)) :
      Interrupted strange p (perform (.outside act) other)

theorem Interrupted.refl (p : Program E) : Interrupted strange p p := by
  induction p with
  | done outcome => exact .done outcome
  | perform op next ih => exact .perform op ih
  | dispatch way t handler next inner ih => exact .dispatch way t inner ih

variable [ExternalSources E] [SessionStores E] [LoginServices E] [AttributeObservers E]

theorem frame_apart : Frame (E := E) (Operation.Own strange)
    (fun before after => before.body.Apart strange → after.body.Apart strange) where
  refl _ := id
  trans _ _ _ first second := second ∘ first
  operation _ _ own := Operation.run_apart own
  unmerged _ := id
  restored := by
    intro way t before called left found kept apart
    rw [(t.restore_kept way before left).1]
    exact kept (found.kept.1 ▸ apart)

variable [ResponseControl E]

theorem returned_apart {way : DispatchWay} {t : DispatchTarget} {handler : String → Program E} {s : Request × E}
    (own : ∀ called, t.enter way s = .ok called → (handler t.text).Stays (Operation.Own strange) called)
    (apart : s.1.body.Apart strange) : (t.run way (handling handler) s).2.1.body.Apart strange := by
  apply frame_apart.dispatch _ apart
  intro called entered
  exact frame_apart.run (own called entered)

theorem stays_any (p : Program E) (s : Request × E) : p.Stays (fun _ => True) s := by
  induction p generalizing s with
  | done outcome => trivial
  | perform op next ih => exact ⟨trivial,ih _ _ _⟩
  | dispatch way t handler next inner ih => exact ⟨fun called _ => inner t.text called,ih _ _ _ _⟩

namespace Interrupted

variable {p q : Program E} {s : Request × E}

theorem run_eq (interrupted : Interrupted strange p q) (own : p.Stays (Operation.Own strange) s)
    (apart : s.1.body.Apart strange) : q.run s = p.run s := by
  -- An interrupted program ends as it would without the interruptions. By induction on them: in
  -- front of each the input is one on which strangers have no hold.
  induction interrupted generalizing s with
  | done outcome => rfl
  | perform op later ih => exact ih s _ own.2 (Operation.run_apart own.1 apart)
  | @dispatch way t handler disturbed next other inside later inner ih =>
    have same : t.run way (handling disturbed) s = t.run way (handling handler) s := by
      apply run_congr
      intro called entered
      exact inner t.text (own.1 called entered) (apart_of_enter entered apart)
    rw [run_dispatch, run_dispatch, same]
    exact ih _ s _ own.2 (returned_apart own.1 apart)
  | @outside act outsider p other later ih =>
    have unmoved := Operation.run_outside outsider apart
    show (other s ((Operation.outside act).run s)).run ((Operation.outside act).run s) = p.run s
    rw [unmoved]
    exact ih s s own apart

theorem reaches_iff (interrupted : Interrupted strange p q) (own : p.Stays (Operation.Own strange) s)
    (apart : s.1.body.Apart strange) {nest : List (Entered E)} {here : Request × E} :
    q.Reaches (fun _ => True) s nest here ↔ p.Reaches (fun _ => True) s nest here := by
  induction interrupted generalizing s nest with
  | done outcome => rfl
  | perform op later ih =>
    rw [reaches_perform_iff, reaches_perform_iff, ih s _ own.2 (Operation.run_apart own.1 apart)]
  | @dispatch way t handler disturbed next other inside later inner ih =>
    have same : t.run way (handling disturbed) s = t.run way (handling handler) s := by
      apply run_congr
      intro called entered
      exact (inside t.text).run_eq (own.1 called entered) (apart_of_enter entered apart)
    have free (handler : String → Program E) :
        ∀ called, t.enter way s = .ok called → (handler t.text).Stays (fun _ => True) called :=
      fun called _ => stays_any _ called
    have apart' : (t.run way (handling handler) s).2.1.body.Apart strange := returned_apart own.1 apart
    rw [reaches_dispatch_iff, reaches_dispatch_iff, same, ih _ s _ own.2 apart']
    refine or_congr Iff.rfl (or_congr ?_ (and_congr (iff_of_true (free disturbed) (free handler)) Iff.rfl))
    refine exists_congr fun called => exists_congr fun nest => and_congr_right fun entered => and_congr_right fun _ => ?_
    exact inner t.text (own.1 called entered) (apart_of_enter entered apart)
  | @outside act outsider p other later ih =>
    have unmoved := Operation.run_outside outsider apart
    rw [reaches_perform_iff, unmoved, ih s s own apart]
    constructor
    · rintro (⟨rfl,rfl⟩ | ⟨-,m⟩)
      · exact .now p _
      · exact m
    · intro m
      exact .inr ⟨trivial,m⟩

end Interrupted

end Program

end HttpRequest
