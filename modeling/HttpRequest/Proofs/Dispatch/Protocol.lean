import HttpRequest.Proofs.Dispatch.Journal
import HttpRequest.Scripted.Collaborators

/-! # What a nest of dispatches asks of the response

A journal is kept of the calls that the response gets. An include puts its two marks around whatever is
asked while its handler runs. A forward asks for a reset, then all is up to its handler, and afterwards
it closes the output if that is still to be done. A response that does not open its output again is so
closed once at most, however the dispatches are nested and however their handlers end.
-/
namespace HttpRequest

open Body (ExternalSources Observed)
open DispatchTarget

instance : Journal (List ResponseCall) where
  session _ log := log
  response call log := log ++ [call]

/-- An environment in which the calls of the response are noted. -/
abbrev Heard (E : Type) : Type :=
  Observed E (List ResponseCall)

/-- The calls that are noted from one environment to a later one. -/
def Told {E : Type} (before after : Heard E) (calls : List ResponseCall) : Prop :=
  after.log = before.log ++ calls

section Calls

variable {E : Type} {a b c : Heard E} {first second : List ResponseCall}

theorem Told.trans (h : Told a b first) (g : Told b c second) : Told a c (first ++ second) := by
  rw [Told, g, h, List.append_assoc]

theorem Told.unique (h : Told a b first) (g : Told a b second) : first = second :=
  List.append_cancel_left (h.symm.trans g)

theorem told_nothing (same : SameLog a b) : Told a b [] :=
  same.trans (List.append_nil a.log).symm

end Calls

namespace ResponseCall

def isMark : ResponseCall → Bool
  | including | included => true
  | _ => false

def closes : ResponseCall → Bool
  | closeOutput done | closeWriter done => done
  | _ => false

/-- The marks of includes are balanced as brackets are. -/
inductive Bracketed : List ResponseCall → Prop
  | nil : Bracketed []
  | other {call : ResponseCall} {rest : List ResponseCall} (unmarked : call.isMark = false) (later : Bracketed rest) :
      Bracketed (call :: rest)
  | pair {inner rest : List ResponseCall} (inside : Bracketed inner) (later : Bracketed rest) :
      Bracketed (including :: (inner ++ included :: rest))

theorem Bracketed.append {calls later : List ResponseCall} (h : Bracketed calls) (g : Bracketed later) :
    Bracketed (calls ++ later) := by
  induction h with
  | nil => exact g
  | other unmarked _ ih => exact .other unmarked ih
  | pair inside _ _ ih =>
    rw [List.cons_append, List.append_assoc, List.cons_append]
    exact .pair inside ih

end ResponseCall

open ResponseCall

namespace DispatchTarget

section Response

variable {E : Type} [ResponseControl E]

/-- What a forward requires to close the output: its target is a path, its handler succeeded and left a
request that does not go on, and the output is open. -/
structure MayClose (t : DispatchTarget) (outcome : Outcome Unit) (left : Request × E) : Prop where
  path : t.isPath = true
  done : outcome.isOk = true
  handled : left.1.asyncStarted = false
  opened : ResponseControl.isOutputClosed left.2 = false

/-- The calls that a forward makes of its own when its handler is done, and the environment then. -/
inductive OwnClose (t : DispatchTarget) (outcome : Outcome Unit) (left : Request × Heard E) :
    List ResponseCall → Heard E → Prop
  | nothing (must : ¬t.MayClose outcome left) : OwnClose t outcome left [] left.2
  | writer (may : t.MayClose outcome left) (mode : ResponseControl.outputMode left.2 = .writer) :
      OwnClose t outcome left [closeWriter (ResponseControl.closeWriter left.2).1.toBool] (ResponseControl.closeWriter left.2).2
  | output (may : t.MayClose outcome left) (mode : ResponseControl.outputMode left.2 ≠ .writer) :
      OwnClose t outcome left [closeOutput (ResponseControl.closeOutput left.2).1.toBool] (ResponseControl.closeOutput left.2).2

variable {t : DispatchTarget} {way : DispatchWay} {s called left : Request × Heard E} {outcome : Outcome Unit}
  {own : List ResponseCall} {after : Heard E}

theorem OwnClose.told (h : t.OwnClose outcome left own after) : Told left.2 after own := by
  cases h with
  | nothing must => exact told_nothing rfl
  | writer may mode => rfl
  | output may mode => rfl

theorem OwnClose.bracketed (h : t.OwnClose outcome left own after) : Bracketed own := by
  cases h with
  | nothing must => exact .nil
  | writer may mode => exact .other rfl .nil
  | output may mode => exact .other rfl .nil

theorem ownClose_closeAfter (t : DispatchTarget) (outcome : Outcome Unit) (left : Request × Heard E) :
    ∃ own, t.OwnClose outcome left own (t.closeAfter outcome left.1 left.2).2 := by
  unfold closeAfter
  split
  next may =>
    have may : t.MayClose outcome left := by
      simp only [Bool.and_eq_true, Bool.not_eq_true'] at may
      exact ⟨may.1.1.1,may.1.1.2,may.1.2,may.2⟩
    show ∃ own, t.OwnClose outcome left own (ResponseControl.close left.2).2
    unfold ResponseControl.close
    split
    next mode => exact ⟨_,.writer may mode⟩
    next mode => exact ⟨_,.output may (by simp [mode])⟩
    next mode => exact ⟨_,.output may (by simp [mode])⟩
  next must =>
    refine ⟨_,.nothing fun may => must ?_⟩
    simp [may.path, may.done, may.handled, may.opened]

theorem told_enter (entered : t.enter way s = .ok called) :
    Told s.2 called.2 [if way = .inclusion then .including else .reset true] := by
  have forwarded {kind : DispatchKind} (entered : t.enterForward kind s = .ok called) : Told s.2 called.2 [.reset true] := by
    obtain ⟨e,reset,-,rfl⟩ := enterForward_eq_ok_iff.mp entered
    have told : Told s.2 (ResponseControl.resetForForward s.2).2 [.reset (ResponseControl.resetForForward s.2).1.toBool] := rfl
    rwa [reset] at told
  cases way with
  | inclusion =>
    obtain ⟨-,rfl⟩ := enterInclude_eq_ok_iff.mp entered
    rfl
  | forward | error => exact forwarded entered

theorem told_refused {f : Failure} (refused : t.enter way s = .error f) (handler : Handler (Heard E)) :
    Told s.2 (t.run way handler s).2.2 (if way = .inclusion then [.including, .included]
      else [.reset (ResponseControl.resetForForward s.2).1.toBool]) := by
  rw [environment_of_refused refused]
  cases way with
  | inclusion => exact List.append_assoc s.2.log [.including] [.included]
  | forward | error => rfl

theorem told_leave (way : DispatchWay) (t : DispatchTarget) (caller : Request) (outcome : Outcome Unit)
    (left : Request × Heard E) :
    if way = .inclusion then Told left.2 (t.leave way caller (outcome,left)).2.2 [.included]
    else ∃ own, t.OwnClose outcome left own (t.leave way caller (outcome,left)).2.2 := by
  cases way with
  | inclusion => rfl
  | forward | error => exact ownClose_closeAfter t outcome left

/-- The calls of a dispatch, with those of its handler in the middle if it gets that far. -/
inductive Protocol (t : DispatchTarget) (way : DispatchWay) (handler : Handler (Heard E)) (s : Request × Heard E) :
    List ResponseCall → Prop
  | included {called : Request × Heard E} {inner : List ResponseCall} (inclusion : way = .inclusion)
      (entered : t.enter way s = .ok called) (opens : Told s.2 called.2 [.including])
      (inside : Told called.2 (handler t.text called).2.2 inner) : Protocol t way handler s (.including :: (inner ++ [.included]))
  | notIncluded {f : Failure} (inclusion : way = .inclusion) (refused : t.enter way s = .error f) :
      Protocol t way handler s [.including, .included]
  | handedOver {called : Request × Heard E} {inner own : List ResponseCall} (forwards : way ≠ .inclusion)
      (entered : t.enter way s = .ok called) (opens : Told s.2 called.2 [.reset true])
      (inside : Told called.2 (handler t.text called).2.2 inner)
      (ends : t.OwnClose (handler t.text called).1 (handler t.text called).2 own (t.run way handler s).2.2) :
      Protocol t way handler s (.reset true :: (inner ++ own))
  | notHandedOver {f : Failure} (forwards : way ≠ .inclusion) (refused : t.enter way s = .error f) :
      Protocol t way handler s [.reset (ResponseControl.resetForForward s.2).1.toBool]

theorem protocol_of_run {handler : Handler (Heard E)}
    (notes : ∀ called, t.enter way s = .ok called → ∃ inner, Told called.2 (handler t.text called).2.2 inner) :
    ∃ calls, Told s.2 (t.run way handler s).2.2 calls ∧ t.Protocol way handler s calls := by
  cases entered : t.enter way s with
  | ok called =>
    obtain ⟨inner,inside⟩ := notes called entered
    have opens := told_enter entered
    have ends := told_leave way t s.1 (handler t.text called).1 (handler t.text called).2
    have run := run_of_enter entered handler
    by_cases inclusion : way = .inclusion
    · rw [if_pos inclusion] at opens ends
      refine ⟨_,?_,.included inclusion entered opens inside⟩
      rw [run]
      exact (opens.trans inside).trans ends
    · rw [if_neg inclusion] at opens ends
      obtain ⟨own,ends⟩ := ends
      refine ⟨_,?_,.handedOver inclusion entered opens inside (run ▸ ends)⟩
      rw [run]
      exact (opens.trans inside).trans ends.told
  | error f =>
    have told := told_refused entered handler
    by_cases inclusion : way = .inclusion
    · rw [if_pos inclusion] at told
      exact ⟨_,told,.notIncluded inclusion entered⟩
    · rw [if_neg inclusion] at told
      exact ⟨_,told,.notHandedOver inclusion entered⟩

end Response

end DispatchTarget

section Relations

variable {E : Type} [ResponseControl E] {a b c : Heard E}

/-- The marks that are noted from one environment to a later one are balanced. -/
def Bracketing (before after : Heard E) : Prop :=
  ∃ calls, Told before after calls ∧ Bracketed calls

/-- From one environment to a later one the output is closed at most once, and not if it was closed
before; if it is closed by a call, it is closed afterwards. -/
def Closing (before after : Heard E) : Prop :=
  ∃ calls, Told before after calls ∧
    (ResponseControl.isOutputClosed before).toNat + calls.countP closes ≤ (ResponseControl.isOutputClosed after).toNat

omit [ResponseControl E] in
theorem bracketing_of_same (same : SameLog a b) : Bracketing a b :=
  ⟨[],told_nothing same,.nil⟩

omit [ResponseControl E] in
theorem Bracketing.trans (h : Bracketing a b) (g : Bracketing b c) : Bracketing a c := by
  obtain ⟨first,toldFirst,bracketed⟩ := h
  obtain ⟨second,toldSecond,later⟩ := g
  exact ⟨_,toldFirst.trans toldSecond,bracketed.append later⟩

theorem Closing.trans (h : Closing a b) (g : Closing b c) : Closing a c := by
  obtain ⟨first,toldFirst,bound⟩ := h
  obtain ⟨second,toldSecond,later⟩ := g
  refine ⟨_,toldFirst.trans toldSecond,?_⟩
  rw [List.countP_append]
  omega

theorem closing_of_none {calls : List ResponseCall} (told : Told a b calls) (closeless : calls.countP closes = 0)
    (stays : ResponseControl.isOutputClosed a = true → ResponseControl.isOutputClosed b = true) : Closing a b := by
  refine ⟨calls,told,?_⟩
  rw [closeless]
  cases closed : ResponseControl.isOutputClosed a with
  | false => exact Nat.zero_le _
  | true => exact Nat.le_of_eq (congrArg Bool.toNat (stays closed)).symm

theorem closing_of_call {call : ResponseCall} (told : Told a b [call]) (opened : ResponseControl.isOutputClosed a = false)
    (closed : call.closes = true → ResponseControl.isOutputClosed b = true) : Closing a b := by
  refine ⟨[call],told,?_⟩
  rw [opened, List.countP_singleton]
  split
  next done => exact Nat.le_of_eq (congrArg Bool.toNat (closed done)).symm
  · exact Nat.zero_le _

end Relations

section Nests

variable {E : Type} [ResponseControl E]

def StaysClosed (before after : E) : Prop :=
  ResponseControl.isOutputClosed before = true → ResponseControl.isOutputClosed after = true

variable [ExternalSources E] [SessionStores E] [LoginServices E] [AttributeObservers E]

/-- Once a call has closed the output of the response, it is closed and stays so. -/
structure ClosesForGood (E : Type) [ExternalSources E] [SessionStores E] [LoginServices E] [AttributeObservers E]
    [ResponseControl E] : Prop where
  output : ∀ e : E, (ResponseControl.closeOutput e).1.toBool = true →
    ResponseControl.isOutputClosed (ResponseControl.closeOutput e).2 = true
  writer : ∀ e : E, (ResponseControl.closeWriter e).1.toBool = true →
    ResponseControl.isOutputClosed (ResponseControl.closeWriter e).2 = true
  responded : ∀ {e e' : E}, Responded e e' → StaysClosed e e'
  consulted : ∀ {e e' : E}, Consulted e e' → StaysClosed e e'
  asked : ∀ {e e' : E}, Sessions.Asked e e' → StaysClosed e e'

variable {t : DispatchTarget} {way : DispatchWay} {handler : Handler (Heard E)} {s : Request × Heard E}

omit [ExternalSources E] [LoginServices E] [AttributeObservers E] [ResponseControl E] in
theorem sameLog_of_asked {o o' : Heard E} (asked : Sessions.Asked o o') : SameLog o o' := by
  cases asked <;> rfl

omit [ResponseControl E] in
theorem Operation.run_bracketing {op : Operation (Heard E)} (wills : op.WillsWithin Bracketing) (s : Request × Heard E) :
    Bracketing s.2 (op.run s).2 :=
  op.run_environment (fun _ => bracketing_of_same rfl) .trans (fun consulted => bracketing_of_same (sameLog_of_consulted consulted))
    wills (fun _ _ _ asked => bracketing_of_same (sameLog_of_asked asked)) s

omit [ExternalSources E] [SessionStores E] [LoginServices E] [AttributeObservers E] in
theorem DispatchTarget.run_protocol
    (inside : ∀ called, t.enter way s = .ok called → Bracketing called.2 (handler t.text called).2.2) :
    ∃ calls, Told s.2 (t.run way handler s).2.2 calls ∧ t.Protocol way handler s calls ∧ Bracketed calls := by
  have within {called : Request × Heard E} {inner : List ResponseCall} (entered : t.enter way s = .ok called)
      (told : Told called.2 (handler t.text called).2.2 inner) : Bracketed inner := by
    obtain ⟨calls,same,bracketed⟩ := inside called entered
    exact told.unique same ▸ bracketed
  obtain ⟨calls,told,protocol⟩ := protocol_of_run fun called entered => (inside called entered).imp fun _ h => h.1
  refine ⟨calls,told,protocol,?_⟩
  cases protocol with
  | included inclusion entered opens heard => exact .pair (within entered heard) .nil
  | notIncluded inclusion refused => exact .pair .nil .nil
  | handedOver forwards entered opens heard ends => exact .other rfl ((within entered heard).append ends.bracketed)
  | notHandedOver forwards refused => exact .other rfl .nil

theorem Program.run_bracketing {p : Program (Heard E)} (stays : p.Stays (Operation.WillsWithin Bracketing) s) :
    Bracketing s.2 (p.run s).2.2 := by
  refine p.run_environment (fun _ => bracketing_of_same rfl) .trans (fun _ s wills => Operation.run_bracketing wills s) ?_ stays
  intro way t handler s inside
  obtain ⟨calls,told,-,bracketed⟩ := run_protocol inside
  exact ⟨calls,told,bracketed⟩

section Closes

variable (law : ClosesForGood E)
include law

theorem Operation.run_closing {op : Operation (Heard E)} (wills : op.WillsWithin Closing) (s : Request × Heard E) :
    Closing s.2 (op.run s).2 :=
  op.run_environment (fun _ => closing_of_none (told_nothing rfl) rfl id) .trans
    (fun consulted => closing_of_none (told_nothing (sameLog_of_consulted consulted)) rfl (law.consulted consulted.unobserved))
    wills
    (fun _ _ _ asked => closing_of_none (told_nothing (sameLog_of_asked asked)) rfl (law.asked asked.unobserved)) s

theorem DispatchTarget.OwnClose.closing {outcome : Outcome Unit} {left : Request × Heard E} {own : List ResponseCall} {after : Heard E}
    (h : t.OwnClose outcome left own after) : Closing left.2 after := by
  cases h with
  | nothing must => exact closing_of_none (told_nothing rfl) rfl id
  | writer may mode => exact closing_of_call rfl may.opened (law.writer left.2.env)
  | output may mode => exact closing_of_call rfl may.opened (law.output left.2.env)

theorem DispatchTarget.run_closing
    (inside : ∀ called, t.enter way s = .ok called → Closing called.2 (handler t.text called).2.2) :
    Closing s.2 (t.run way handler s).2.2 := by
  have responded {o o' : Heard E} (call : Responded o o') : StaysClosed o o' := law.responded call.unobserved
  cases entered : t.enter way s with
  | ok called =>
    have begins : Closing s.2 called.2 := by
      refine closing_of_none (told_enter entered) ?_ (enter_environment (Q := StaysClosed) responded entered)
      split <;> rfl
    have ends : Closing (handler t.text called).2.2 (t.run way handler s).2.2 := by
      have leaves := told_leave way t s.1 (handler t.text called).1 (handler t.text called).2
      rw [run_of_enter entered]
      split at leaves
      next inclusion =>
        refine closing_of_none leaves rfl ?_
        exact leave_environment (Q := StaysClosed) (fun _ => id) responded way t s.1 _ _
      · obtain ⟨own,closes⟩ := leaves
        exact closes.closing law
    exact (begins.trans (inside called entered)).trans ends
  | error f =>
    refine closing_of_none (told_refused entered handler) ?_
      (refused_environment (Q := StaysClosed) (fun first second => second ∘ first) responded entered handler)
    split <;> rfl

theorem Program.run_closing {p : Program (Heard E)} (stays : p.Stays (Operation.WillsWithin Closing) s) :
    Closing s.2 (p.run s).2.2 :=
  p.run_environment (fun _ => closing_of_none (told_nothing rfl) rfl id) .trans (fun _ s wills => Operation.run_closing law wills s)
    (DispatchTarget.run_closing law) stays

end Closes

end Nests

section Scripts

variable {κ : Type}

theorem scripted_close (e : Scripted.Environment κ) :
    (e.close.1.toBool = true → e.close.2.response.closed = true) ∧ StaysClosed e e.close.2 := by
  unfold Scripted.Environment.close
  split
  · exact ⟨nofun,id⟩
  · exact ⟨fun _ => rfl,fun _ => rfl⟩

theorem scripted_response {e e' : Scripted.Environment κ} (call : Consulted e e' ∨ Sessions.Asked e e') :
    e'.response = e.response := by
  rcases call with call | call
  · cases call with
    | source call =>
      cases call with
      | wait key milliseconds =>
        simp only [ExternalSources.wait]
        split <;> rfl
      | _ => rfl
    | login service name password => rfl
    | logout service user =>
      simp only [LoginServices.logout]
      split <;> rfl
    | notify observer event =>
      simp only [AttributeObservers.notify]
      split <;> rfl
  · cases call with
    | create manager =>
      simp only [SessionStores.create]
      split <;> rfl
    | isValid manager session =>
      simp only [SessionStores.isValid]
      split <;> rfl
    | renew manager session =>
      simp only [SessionStores.renew]
      split <;> rfl
    | complete manager session => rfl
    | commit manager session => rfl

theorem closesForGood_scripted : ClosesForGood (Scripted.Environment κ) where
  output e := (scripted_close (e.say "res close_output")).1
  writer e := (scripted_close (e.say "res close_writer")).1
  responded := by
    intro e e' call
    cases call with
    | including => exact id
    | included => exact id
    | reset =>
      simp only [ResponseControl.resetForForward]
      split <;> exact id
    | closeOutput => exact (scripted_close (e.say "res close_output")).2
    | closeWriter => exact (scripted_close (e.say "res close_writer")).2
  consulted call closed := (congrArg Scripted.Response.closed (scripted_response (.inl call))).trans closed
  asked call closed := (congrArg Scripted.Response.closed (scripted_response (.inr call))).trans closed

end Scripts

/-- What a dispatch asks of the response, whatever its handler does short of unbalanced marks, however
often it dispatches further and in whichever way all the handlers end. -/
theorem DispatchTarget.response_protocol {E : Type} [ExternalSources E] [SessionStores E] [LoginServices E]
    [AttributeObservers E] [ResponseControl E] (way : DispatchWay) (t : DispatchTarget)
    (programs : String → Program (Heard E)) (s : Request × Heard E)
    (handlers : ∀ called, t.enter way s = .ok called → (programs t.text).Stays (Operation.WillsWithin Bracketing) called) :
    ∃ calls, Told s.2 (t.run way (Program.handling programs) s).2.2 calls ∧
      t.Protocol way (Program.handling programs) s calls ∧ Bracketed calls ∧
      (ClosesForGood E → (∀ called, t.enter way s = .ok called → (programs t.text).Stays (Operation.WillsWithin Closing) called) →
        calls.countP closes ≤ 1) := by
  have inside (called : Request × Heard E) (entered : t.enter way s = .ok called) :
      Bracketing called.2 (Program.handling programs t.text called).2.2 :=
    Program.run_bracketing (handlers called entered)
  obtain ⟨calls,told,protocol,bracketed⟩ := run_protocol inside
  refine ⟨calls,told,protocol,bracketed,?_⟩
  intro law careful
  have closing : Closing s.2 (t.run way (Program.handling programs) s).2.2 :=
    run_closing law fun called entered => Program.run_closing law (careful called entered)
  obtain ⟨counted,same,bound⟩ := closing
  have atMost := Bool.toNat_le (ResponseControl.isOutputClosed (t.run way (Program.handling programs) s).2.2)
  rw [told.unique same]
  omega

/-- An outer forward whose handler includes another that panics, but not before a forward within it. -/
def nestedHandlers : String → Program (Heard (Scripted.Environment Unit)) :=
  fun _ => .dispatch .inclusion (.named "frame")
    (fun _ => .perform (.useEnvironment fun o => (ResponseControl.resetForForward o).2) fun _ _ =>
      .dispatch .forward (.forPath "" "/inner") (fun _ => .done (.ok ())) fun _ _ _ => .done (.panicked "frame"))
    fun _ _ _ => .done (.ok ())

theorem nestedHandlers_protocol : ∃ (s : Request × Heard (Scripted.Environment Unit)) (t : DispatchTarget) (calls : List ResponseCall),
    s = (.new {},⟨{ kept := () },[]⟩) ∧ t = .forPath "" "/outer" ∧
    Told s.2 (t.run .forward (Program.handling nestedHandlers) s).2.2 calls ∧
    t.Protocol .forward (Program.handling nestedHandlers) s calls ∧ Bracketed calls ∧ calls.countP closes ≤ 1 ∧
    calls = [.reset true, .including, .reset true, .reset true, .closeOutput true, .included] := by
  have resets (o : Heard (Scripted.Environment Unit)) : Bracketing o (ResponseControl.resetForForward o).2 :=
    ⟨_,rfl,.other rfl .nil⟩
  have keeps (o : Heard (Scripted.Environment Unit)) : Closing o (ResponseControl.resetForForward o).2 :=
    closing_of_none rfl rfl (closesForGood_scripted.responded .reset)
  obtain ⟨calls,told,protocol,bracketed,once⟩ :=
    response_protocol .forward (.forPath "" "/outer") nestedHandlers (.new {},⟨{ kept := () },[]⟩)
      fun _ _ => ⟨fun _ _ => ⟨resets,fun _ _ => trivial,trivial⟩,trivial⟩
  refine ⟨_,_,calls,rfl,rfl,told,protocol,bracketed,?_,?_⟩
  · exact once closesForGood_scripted fun _ _ => ⟨fun _ _ => ⟨keeps,fun _ _ => trivial,trivial⟩,trivial⟩
  · refine told.unique ?_
    unfold Told
    decide +kernel

end HttpRequest
