import HttpRequest.Proofs.Body.Account
import HttpRequest.Scripted.Collaborators

/-! # What a listener is told

Whatever the callbacks do to the input, the listener is told of data, then of the end, then of a
failure, each when it is due. While a callback runs the input has no listener and takes no new one, so
nothing is told from inside: the flags of a detached input stay, and a callback is one more stretch of
conduct in which input and account agree.
-/
namespace HttpRequest.Body

open Input

variable {E : Type} [ExternalSources E]

/-- The input is driven by readiness and nobody listens, as while a callback runs. -/
structure Detached (i : Input) : Prop where
  pacing : i.pacing = .async
  listener : i.listener = none

/-- One state of an input is detached if an earlier one was, and no failure was told in between. -/
structure Aside (before after : Input) : Prop where
  detached : Detached after
  failureTold : after.failureTold = before.failureTold

namespace Aside

theorem refl {i : Input} (d : Detached i) : Aside i i := ⟨d,rfl⟩

theorem trans {a b c : Input} (first : Aside a b) (second : Aside b c) : Aside a c :=
  ⟨second.detached,second.failureTold.trans first.failureTold⟩

theorem of_hearing {i j : Input} (d : Detached i) (same : SameHearing i j) : Aside i j :=
  ⟨⟨same.pacing.trans d.pacing,same.listener.trans d.listener⟩,same.failureTold⟩

end Aside

theorem Act.run_hearing (act : Act E) {s : Input × Audited E} (async : s.1.pacing = .async) :
    SameHearing s.1 (act.run s).1 := by
  cases act with
  | read n =>
    have same : (if n = 0 then s else acceptIncoming s).1 = s.1 := by split <;> rfl
    have read := read_hearing n (if n = 0 then s else acceptIncoming s)
    rw [same] at read
    exact read
  | isReady => exact (isReady_course (acceptIncoming s)).toSameHearing
  | requestMore => exact (requestMore_course (acceptIncoming s)).toSameHearing
  | watch => exact (watch_course s).1.toSameHearing
  | fail f =>
    simp only [Act.run, Input.fail]
    split
    · exact .refl s.1
    · exact ⟨rfl,rfl,rfl,rfl⟩
  | setListener l =>
    simp only [Act.run, setListener_of_async async]
    exact .refl s.1
  | feed id f => exact (feed_course s.1 id f).1.toSameHearing
  | addFeeder id => exact (changeChannel_course s.1 id _).1.toSameHearing
  | dropFeeder id => exact (changeChannel_course s.1 id _).1.toSameHearing
  | raiseFrom key => exact ⟨rfl,rfl,rfl,rfl⟩
  | useEnvironment change => exact .refl s.1

theorem onReadPossible_unheard {E : Type} [ExternalSources E] {s : Input × E}
    (unheard : s.1.listener = none) (callbacks : Callbacks E) :
    (onReadPossible callbacks s).2 = ({ s.1 with signal := .idle },s.2) := by
  simp only [onReadPossible, unheard]

theorem Conduct.run_detached {R : Input → Input → Prop} (refl : ∀ i, R i i)
    (trans : ∀ i j k, R i j → R j k → R i k) (lower : ∀ i, R i { i with signal := .idle })
    (acts : ∀ (act : Act E) (s : Input × Audited E), Detached s.1 → R s.1 (act.run s).1)
    (c : Conduct E) {s : Input × Audited E} (d : Detached s.1) :
    R s.1 (c.run s).2.1 ∧ Detached (c.run s).2.1 := by
  induction c generalizing s with
  | finish result => exact ⟨refl s.1,d⟩
  | act step next ih =>
    have heard := step.run_hearing d.pacing
    obtain ⟨later,detached⟩ := ih (plain s) (plain (step.run s)) (s := step.run s)
      ⟨heard.pacing.trans d.pacing,heard.listener.trans d.listener⟩
    exact ⟨trans _ _ _ (acts step s d) later,detached⟩
  | poll onData onEnd onFailure next _ _ ih =>
    obtain ⟨low,isLow⟩ : ∃ low, low = (({ s.1 with signal := .idle } : Input),s.2) := ⟨_,rfl⟩
    have silent (callbacks : Callbacks (Audited E)) : (onReadPossible callbacks s).2 = low :=
      (onReadPossible_unheard d.listener callbacks).trans isLow.symm
    have lowered : R s.1 low.1 ∧ Detached low.1 := by
      rw [isLow]
      exact ⟨lower s.1,d.pacing,d.listener⟩
    simp only [Conduct.run, d.listener, Option.isSome_none, Bool.false_eq_true, if_false, silent]
    obtain ⟨later,detached⟩ := ih (plain s) (plain low) lowered.2
    exact ⟨trans _ _ _ lowered.1 later,detached⟩

theorem Conduct.run_hearing (c : Conduct E) {s : Input × Audited E} (d : Detached s.1) :
    SameHearing s.1 (c.run s).2.1 :=
  (c.run_detached SameHearing.refl (fun _ _ _ => .trans) (fun _ => ⟨rfl,rfl,rfl,rfl⟩)
    (fun act _ d => act.run_hearing d.pacing) d).1

/-- A callback keeps the agreement, and is aside while it runs. -/
def Reaction.Keeps (r : Reaction E) : Prop :=
  ∀ l s, Accounted s → Detached s.1 → Accounted (r l s).2 ∧ Aside s.1 (r l s).2.1

def Opened (s : Input × Audited E) : Prop :=
  ∃ a, s.2.account = some a ∧ Sound s.1 a

omit [ExternalSources E] in
theorem Opened.accounted {s : Input × Audited E} (h : Opened s) : Accounted s := by
  obtain ⟨a,account,sound⟩ := h
  exact (accounted_some account).mpr sound

omit [ExternalSources E] in
theorem Accounted.opened {s : Input × Audited E} (h : Accounted s)
    (heard : s.1.pacing = .async ∨ s.1.listener.isSome) : Opened s := by
  cases account : s.2.account with
  | none =>
    have unheard := (accounted_none account).mp h
    simp [unheard.pacing, unheard.listener] at heard
  | some a => exact ⟨a,account,(accounted_some account).mp h⟩

section Delivery
variable {onData onEnd : Reaction E} (onFailure : ListenerKey → Failure → E → E)
  {s : Input × Audited E} (l : ListenerKey)

omit [ExternalSources E] in
theorem opened_note {i : Input} {e : Audited E} {a : Account} (account : e.account = some a)
    {f : Account → Account} (h : Sound i (f a)) : Opened (i,e.note f) :=
  ⟨f a,by simp [Audited.note, account],h⟩

theorem tellData_accounted (data : onData.Keeps) (h : Accounted s) (d : Detached s.1) :
    Accounted (tellData (auditing onData onEnd onFailure) l (acceptIncoming s)) ∧
      Aside s.1 (tellData (auditing onData onEnd onFailure) l (acceptIncoming s)).1 := by
  have asked := h.request
  have course := requestMore_course (acceptIncoming s)
  unfold tellData
  split
  next failed =>
    rw [requestMore_of_settled (settled_of_failure failed)] at asked
    exact ⟨asked,.refl d⟩
  next unfailed =>
    have unfailed : s.1.failure = none := Option.not_isSome_iff_eq_none.mp unfailed
    have aside : Aside s.1 (requestMore (acceptIncoming s)).1 := .of_hearing d course.toSameHearing
    dsimp only
    generalize requestMore (acceptIncoming s) = t at asked course aside
    split
    next content =>
      obtain ⟨a,account,sound⟩ := asked.opened (.inl aside.detached.pacing)
      have told := sound.tellData (course.failure.trans unfailed) (t.1.buffer.hasContent_iff.mp content)
      have called := data l (t.1,t.2.note (·.tell (.data t.1.buffer.bytes)))
        (opened_note account told).accounted aside.detached
      simp only [auditing, Attempt.exec_of]
      generalize onData l (t.1,t.2.note (·.tell (.data t.1.buffer.bytes))) = outcome at called
      obtain ⟨result,i,e⟩ := outcome
      obtain ⟨accounted,here⟩ := called
      cases result with
      | ok _ => exact ⟨accounted,aside.trans here⟩
      | error f =>
        refine ⟨?_,(aside.trans here).trans (.of_hearing here.detached ⟨rfl,rfl,rfl,rfl⟩)⟩
        -- a callback that fails breaks the input only if nothing failed before
        cases failure : i.failure with
        | none =>
          obtain ⟨b,account,sound⟩ := accounted.opened (.inl here.detached.pacing)
          simpa [Except.toBool, failure] using (opened_note account (sound.spoil f)).accounted
        | some g =>
          have same : SameCourse i { i with failure := some g } := ⟨⟨rfl,rfl,rfl,rfl⟩,failure.symm,rfl⟩
          have kept : Accounted (({ i with failure := some g } : Input),e) := accounted.congr rfl same rfl
          simpa [Except.toBool, failure] using kept
    · exact ⟨asked,aside⟩

omit [ExternalSources E] in
theorem tellFailure_opened (h : Opened s) {f : Failure} (failed : s.1.failure = some f) :
    Opened (tellFailure (auditing onData onEnd onFailure) l f s).2 := by
  unfold tellFailure
  split
  · exact h
  next untold =>
    obtain ⟨a,account,sound⟩ := h
    have told := sound.tellFailure (by simp [failed]) (by simpa using untold) f
    exact ⟨_,by simp [auditing, Audited.note, account],told⟩

omit [ExternalSources E] in
theorem tellEnd_opened (ends : onEnd.Keeps) (h : Opened s) (d : Detached s.1)
    (unfailed : s.1.failure = none) (finished : s.1.isFinished = true) :
    Opened (tellEnd (auditing onData onEnd onFailure) l s) := by
  unfold tellEnd
  split
  · exact h
  next untold =>
    obtain ⟨a,account,sound⟩ := h
    have told := sound.tellEnd unfailed finished (by simpa using untold)
    have called := ends l ({ s.1 with endTold := true },
      s.2.note fun a => a.tell (.ended s.1.failure a.toTally))
      (opened_note account told).accounted ⟨d.pacing,d.listener⟩
    simp only [auditing, Attempt.exec_of]
    generalize onEnd l ({ s.1 with endTold := true },
      s.2.note fun a => a.tell (.ended s.1.failure a.toTally)) = outcome at called
    obtain ⟨result,i,e⟩ := outcome
    obtain ⟨accounted,here⟩ := called
    obtain ⟨b,account,ended⟩ : Opened (i,e) := accounted.opened (.inl here.detached.pacing)
    cases result with
    | ok _ => exact ⟨b,account,ended⟩
    | error f =>
      have account : e.account = some b := account
      have untold : i.failureTold = false := here.failureTold.trans (sound.failureUntold unfailed)
      exact ⟨_,by simp [Except.toBool, Audited.note, account],(ended.spoil f).tellFailure rfl untold f⟩

theorem deliver_opened (data : onData.Keeps) (ends : onEnd.Keeps) (h : Accounted s)
    (d : Detached s.1) :
    Opened (deliver (auditing onData onEnd onFailure) l (acceptIncoming s)).2 := by
  obtain ⟨told,aside⟩ : Accounted (tellData (auditing onData onEnd onFailure) l (acceptIncoming s)) ∧
      Aside s.1 (tellData (auditing onData onEnd onFailure) l (acceptIncoming s)).1 :=
    tellData_accounted onFailure l data h d
  unfold deliver
  dsimp only
  generalize tellData (auditing onData onEnd onFailure) l (acceptIncoming s) = t at told aside
  have surfaced : Opened (t.1.surfaceFailure,t.2) := by
    obtain ⟨a,account,sound⟩ := told.opened (.inl aside.detached.pacing)
    exact ⟨a,account,sound.surface⟩
  have detached : Detached t.1.surfaceFailure := by
    unfold surfaceFailure
    split
    · exact ⟨aside.detached.pacing,aside.detached.listener⟩
    · exact aside.detached
  split
  next f failed => exact tellFailure_opened onFailure l surfaced failed
  next unfailed =>
    split
    next finished => exact tellEnd_opened onFailure l ends surfaced detached unfailed finished
    · split
      · exact surfaced
      · obtain ⟨a,account,sound⟩ := surfaced
        have watched := watch_course (t.1.surfaceFailure,t.2)
        exact ⟨a,(watch_account _).trans account,sound.congr watched.1 watched.2⟩

end Delivery

theorem onReadPossible_accounted {onData onEnd : Reaction E}
    (onFailure : ListenerKey → Failure → E → E) (data : onData.Keeps) (ends : onEnd.Keeps)
    {s : Input × Audited E} (h : Accounted s) :
    Accounted (onReadPossible (auditing onData onEnd onFailure)
      (if s.1.listener.isSome then acceptIncoming s else s)).2 := by
  cases listener : s.1.listener with
  | none =>
    simp only [Option.isSome_none, Bool.false_eq_true, if_false, onReadPossible, listener]
    exact h.congr rfl ⟨⟨rfl,listener.symm,rfl,rfl⟩,rfl,rfl⟩ rfl
  | some l =>
    obtain ⟨a,account,sound⟩ := h.opened (.inr (by simp [listener]))
    have detached : Detached { s.1 with signal := .idle, listener := none } := ⟨sound.pacing,rfl⟩
    have lowered : Opened (({ s.1 with signal := .idle, listener := none } : Input),s.2) :=
      ⟨a,account,sound.pacing,sound.word,sound.proper,sound.refused,sound.failed,sound.ended,
        sound.broken,sound.kept,sound.drained⟩
    obtain ⟨b,account,told⟩ := deliver_opened onFailure l data ends lowered.accounted detached
    have here : (acceptIncoming s).1.listener = some l := listener
    simp only [Option.isSome_some, if_true, onReadPossible, here]
    refine Opened.accounted ⟨b,account,?_⟩
    exact ⟨told.pacing,told.word,told.proper,told.refused,told.failed,told.ended,told.broken,
      told.kept,told.drained⟩

theorem Conduct.run_accounted (c : Conduct E) {s : Input × Audited E} (h : Accounted s) :
    Accounted (c.run s).2 := by
  induction c generalizing s with
  | finish result => exact h
  | act step next ih => exact ih _ _ (step.run_accounted h)
  | poll onData onEnd onFailure next data ends ih =>
    refine ih _ _ (onReadPossible_accounted onFailure ?_ ?_ h)
    · exact fun l s accounted d => ⟨data l _ accounted,Aside.of_hearing d ((onData l (plain s)).run_hearing d)⟩
    · exact fun l s accounted d => ⟨ends l _ accounted,Aside.of_hearing d ((onEnd l (plain s)).run_hearing d)⟩

/-- Around an input with any source, and with any callbacks, a listener is told of data, then at most
once of the end and at most once of a failure, each when it is due; and a read fails only behind the
accepted bytes, unless the input was broken by hand or by a callback. -/
theorem told_orderly (timeout : Nat) (source : Source) (expectsContinue : Bool) (e : E)
    (c : Conduct E) {a : Account}
    (heard : (c.run ((Input.new timeout).attach source expectsContinue,{ env := e })).2.2.account = some a) :
    a.Orderly := by
  have fresh : Accounted ((Input.new timeout).attach source expectsContinue,({ env := e } : Audited E)) :=
    (accounted_none rfl).mpr ⟨rfl,rfl,rfl,rfl,nofun⟩
  exact ((accounted_some heard).mp (c.run_accounted fresh)).orderly

section Abort

def readOnce (n : Nat) :
    ListenerKey → Input × Scripted.Environment Unit → Conduct (Scripted.Environment Unit) :=
  fun _ _ => .act (.read n) fun _ _ => .finish (.ok ())

def pollTwice : Conduct (Scripted.Environment Unit) :=
  .act (.setListener ⟨0⟩) fun _ _ =>
    .poll (readOnce 1) (readOnce 1) (fun _ _ e => e) fun _ _ =>
      .poll (readOnce 8) (readOnce 8) (fun _ _ e => e) fun _ _ => .finish (.ok ())

def abortedSource : Source :=
  .channel { id := ⟨0⟩, queue := [.chunk [1,2],.abort "reset"] }

def abortedAccount : Account where
  accepted := [1,2]
  given := [1,2]
  told := [.data [1,2],.data [2],
    .failed (.io ⟨.connectionAborted,"reset"⟩) { accepted := [1,2], given := [1,2] }]

/-- The abort is told after both bytes have been read. -/
theorem abortedAccount_orderly :
    (pollTwice.run ((Input.new 30000).attach abortedSource false,
      ({ env := { kept := () } } : Audited (Scripted.Environment Unit)))).2.2.account =
        some abortedAccount ∧ abortedAccount.Orderly := by
  have heard : (pollTwice.run ((Input.new 30000).attach abortedSource false,
      ({ env := { kept := () } } : Audited (Scripted.Environment Unit)))).2.2.account =
        some abortedAccount := by decide +kernel
  exact ⟨heard,told_orderly (E := Scripted.Environment Unit) 30000 abortedSource false { kept := () }
    pollTwice heard⟩

end Abort

end HttpRequest.Body
