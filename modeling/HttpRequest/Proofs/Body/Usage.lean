import HttpRequest.Body.Notify
import HttpRequest.Proofs.Body.Operation

/-! # The use of an input

Whoever uses an input does one operation after another and polls it in between, each step chosen by
what happened before, and the callbacks of a poll do the same. So a use is a finite tree. An observer
keeps a log beside it. What holds of the input and the log is kept by the whole use if it is kept by
what is observed, and by anything that happens unseen in a delivery: there nothing is read, and a
failure stays.
-/
namespace HttpRequest.Body

open Input

/-- An environment with a log. -/
structure Observed (E L : Type) where
  env : E
  log : L

instance {E L : Type} [ExternalSources E] : ExternalSources (Observed E L) where
  produce key e :=
    ((ExternalSources.produce key e.env).1, { e with env := (ExternalSources.produce key e.env).2 })
  wait key milliseconds e :=
    ((ExternalSources.wait key milliseconds e.env).1,
      { e with env := (ExternalSources.wait key milliseconds e.env).2 })
  watch key e :=
    ((ExternalSources.watch key e.env).1, { e with env := (ExternalSources.watch key e.env).2 })
  sendContinue key e :=
    ((ExternalSources.sendContinue key e.env).1,
      { e with env := (ExternalSources.sendContinue key e.env).2 })
  patience key e := ExternalSources.patience key e.env
  supply key e := ExternalSources.supply key e.env

structure Observer (E L : Type) where
  /-- An operation is done in the given state. -/
  act : Operation E → Input × E → L → L
  /-- The input is looked at, before and after a poll. -/
  look : Input → L → L
  /-- The callback for the end has failed and left the input. -/
  endFailed : Failure → Input → L → L
  /-- The callback for failures is called. -/
  told : Failure → L → L

/-- Any use of an input. The states before and after a step are in view of the next. -/
inductive Usage (E : Type) where
  | finish (result : Except Failure Unit)
  | use (op : Operation E) (next : (before after : Input × E) → Usage E)
  | poll (onData onEnd : ListenerKey → Input × E → Usage E) (onFailure : ListenerKey → Failure → E → E)
      (next : (before after : Input × E) → Usage E)

abbrev Handler (E L : Type) :=
  ListenerKey → Input × Observed E L → Except Failure Unit × (Input × Observed E L)

section Run
variable {E L : Type}

def unobserved (s : Input × Observed E L) : Input × E :=
  (s.1, s.2.env)

variable (o : Observer E L)

def Observer.callbacks (onData onEnd : Handler E L) (onFailure : ListenerKey → Failure → E → E) :
    Callbacks (Observed E L) where
  onData l := .of (onData l)
  onEnd l := .of fun s =>
    match onEnd l s with
    | (.ok _, s) => (.ok (), s)
    | (.error f, i, e) => (.error f, i, { e with log := o.endFailed f i e.log })
  onFailure l f e := { env := onFailure l f e.env, log := o.told f e.log }

def Observer.see (s : Input × Observed E L) : Input × Observed E L :=
  (s.1, { s.2 with log := o.look s.1 s.2.log })

variable [ExternalSources E]

def Observer.run (op : Operation E) (s : Input × Observed E L) : Input × Observed E L :=
  let (i, e) := op.apply (unobserved s)
  (i, { env := e, log := o.act op (unobserved s) s.2.log })

def Usage.run : Usage E → Input × Observed E L → Except Failure Unit × (Input × Observed E L)
  | finish result, s => (result, s)
  | use op next, s => (next (unobserved s) (unobserved (o.run op s))).run (o.run op s)
  | poll onData onEnd onFailure next, s =>
    let callbacks := o.callbacks (fun l s => (onData l (unobserved s)).run s)
      (fun l s => (onEnd l (unobserved s)).run s) onFailure
    let polled := o.see (onReadPossible callbacks (o.see s)).2
    (next (unobserved s) (unobserved polled)).run polled

end Run

structure Harmless (before after : Input) : Prop extends Undisturbed before after where
  failure : ∀ f, before.failure = some f → after.failure = some f

theorem Harmless.of_same {i j : Input} (mode : j.mode = i.mode) (decoder : j.decoder = i.decoder)
    (consumed : j.consumed = i.consumed) (buffer : j.buffer = i.buffer) (failure : j.failure = i.failure) :
    Harmless i j := by
  refine ⟨⟨mode,decoder,consumed,fun finished => ?_⟩,fun _ failed => failure.trans failed⟩
  rw [isFinished, buffer]
  exact finished

/-- A property of an input and a log that is kept by all that is observed, and by all that is harmless. -/
structure Observer.Keeps {E L : Type} [ExternalSources E] (o : Observer E L) (P : Input → L → Prop) :
    Prop where
  act (op : Operation E) (s : Input × E) (log : L) : P s.1 log → P (op.apply s).1 (o.act op s log)
  look (i : Input) (log : L) : P i log → P i (o.look i log)
  told (i : Input) (f : Failure) (log : L) : i.failure = some f → P i log → P i (o.told f log)
  endFailed (i : Input) (f : Failure) (log : L) :
    P i log → P { i with failureTold := true, failure := some f } (o.told f (o.endFailed f i log))
  harmless {i j : Input} (log : L) : Harmless i j → P i log → P j log

section Delivery
variable {E L : Type} [ExternalSources E]

theorem requestMore_log (s : Input × Observed E L) : (requestMore s).2.log = s.2.log := by
  obtain ⟨i,e⟩ := s
  unfold requestMore
  dsimp only
  split
  · rfl
  · match i.source with
    | none => rfl
    | some (.memory _) => rfl
    | some (.channel _) => rfl
    | some (.external _) => rfl

theorem watch_log (s : Input × Observed E L) : (watch s).2.log = s.2.log := by
  obtain ⟨i,e⟩ := s
  unfold watch
  dsimp only
  match i.source with
  | none => rfl
  | some (.memory _) => rfl
  | some (.channel _) => rfl
  | some (.external _) => rfl

theorem requestMore_harmless (s : Input × E) : Harmless s.1 (requestMore s).1 :=
  ⟨requestMore_undisturbed s,fun _ failed => (requestMore_course s).failure.trans failed⟩

theorem watch_harmless (s : Input × E) : Harmless s.1 (watch s).1 :=
  ⟨watch_undisturbed s,fun _ failed => (watch_course s).1.failure.trans failed⟩

omit [ExternalSources E] in
theorem surfaceFailure_harmless (i : Input) : Harmless i i.surfaceFailure := by
  unfold surfaceFailure
  split
  next surfaces =>
    have unfailed : i.failure = none := by simpa using (Bool.and_eq_true_iff.mp surfaces).1
    exact ⟨⟨rfl,rfl,rfl,fun finished => finished⟩,fun f failed => absurd (unfailed.symm.trans failed) nofun⟩
  · exact ⟨.refl i,fun _ failed => failed⟩

variable {o : Observer E L} {P : Input → L → Prop} (h : o.Keeps P) {onData onEnd : Handler E L}
  (onFailure : ListenerKey → Failure → E → E) (l : ListenerKey) {s : Input × Observed E L}
include h

theorem Observer.Keeps.tellData (data : ∀ l s, P s.1 s.2.log → P (onData l s).2.1 (onData l s).2.2.log)
    (holds : P s.1 s.2.log) :
    P (tellData (o.callbacks onData onEnd onFailure) l s).1
      (tellData (o.callbacks onData onEnd onFailure) l s).2.log := by
  have asked : P (requestMore s).1 (requestMore s).2.log := by
    rw [requestMore_log]
    exact h.harmless _ (requestMore_harmless s) holds
  unfold Input.tellData
  split
  · exact holds
  · dsimp only
    generalize requestMore s = t at asked
    split
    · have called := data l t asked
      simp only [Observer.callbacks, Attempt.exec_of]
      generalize onData l t = outcome at called
      obtain ⟨f | _,i,e⟩ := outcome
      · have first : Harmless i { i with failure := i.failure.or (some f) } :=
          ⟨⟨rfl,rfl,rfl,fun finished => finished⟩,fun g failed => by simp [failed]⟩
        exact h.harmless e.log first called
      · exact called
    · exact asked

theorem Observer.Keeps.tellFailure (holds : P s.1 s.2.log) {f : Failure} (failed : s.1.failure = some f) :
    P (tellFailure (o.callbacks onData onEnd onFailure) l f s).2.1
      (tellFailure (o.callbacks onData onEnd onFailure) l f s).2.2.log := by
  unfold Input.tellFailure
  split
  · exact holds
  · have told := h.told s.1 f s.2.log failed holds
    exact h.harmless (i := s.1) _ (.of_same rfl rfl rfl rfl rfl) told

theorem Observer.Keeps.tellEnd (ends : ∀ l s, P s.1 s.2.log → P (onEnd l s).2.1 (onEnd l s).2.2.log)
    (holds : P s.1 s.2.log) :
    P (tellEnd (o.callbacks onData onEnd onFailure) l s).1
      (tellEnd (o.callbacks onData onEnd onFailure) l s).2.log := by
  unfold Input.tellEnd
  split
  · exact holds
  · have begun : P { s.1 with endTold := true } s.2.log :=
      h.harmless (i := s.1) _ (.of_same rfl rfl rfl rfl rfl) holds
    have called := ends l ({ s.1 with endTold := true },s.2) begun
    simp only [Observer.callbacks, Attempt.exec_of]
    generalize onEnd l ({ s.1 with endTold := true },s.2) = outcome at called
    obtain ⟨f | _,i,e⟩ := outcome
    · exact h.endFailed i f e.log called
    · exact called

theorem Observer.Keeps.deliver (data : ∀ l s, P s.1 s.2.log → P (onData l s).2.1 (onData l s).2.2.log)
    (ends : ∀ l s, P s.1 s.2.log → P (onEnd l s).2.1 (onEnd l s).2.2.log) (holds : P s.1 s.2.log) :
    P (deliver (o.callbacks onData onEnd onFailure) l s).2.1
      (deliver (o.callbacks onData onEnd onFailure) l s).2.2.log := by
  have told : P (Input.tellData (o.callbacks onData onEnd onFailure) l s).1
      (Input.tellData (o.callbacks onData onEnd onFailure) l s).2.log :=
    h.tellData onFailure l data holds
  unfold Input.deliver
  dsimp only
  generalize Input.tellData (o.callbacks onData onEnd onFailure) l s = t at told
  have surfaced := h.harmless _ (surfaceFailure_harmless t.1) told
  generalize t.1.surfaceFailure = i at surfaced
  split
  next f failed => exact h.tellFailure onFailure l (s := (i,t.2)) surfaced failed
  · split
    · exact h.tellEnd onFailure l ends (s := (i,t.2)) surfaced
    · split
      · exact surfaced
      · rw [watch_log]
        exact h.harmless _ (watch_harmless (i,t.2)) surfaced

theorem Observer.Keeps.onReadPossible
    (data : ∀ l s, P s.1 s.2.log → P (onData l s).2.1 (onData l s).2.2.log)
    (ends : ∀ l s, P s.1 s.2.log → P (onEnd l s).2.1 (onEnd l s).2.2.log) (holds : P s.1 s.2.log) :
    P (onReadPossible (o.callbacks onData onEnd onFailure) s).2.1
      (onReadPossible (o.callbacks onData onEnd onFailure) s).2.2.log := by
  unfold Input.onReadPossible
  dsimp only
  split
  · exact h.harmless (i := s.1) _ (.of_same rfl rfl rfl rfl rfl) holds
  next l _ =>
    have lowered : P { s.1 with signal := .idle, listener := none } s.2.log :=
      h.harmless (i := s.1) _ (.of_same rfl rfl rfl rfl rfl) holds
    obtain ⟨low,isLow⟩ : ∃ low, low = ({ s.1 with signal := .idle, listener := none },s.2) := ⟨_,rfl⟩
    have lowered : P low.1 low.2.log := isLow ▸ lowered
    have delivered := h.deliver onFailure l data ends lowered
    rw [← isLow]
    generalize Input.deliver (o.callbacks onData onEnd onFailure) l low = outcome at delivered
    obtain ⟨told,i,e⟩ := outcome
    exact h.harmless (i := i) _ (.of_same rfl rfl rfl rfl rfl) delivered

theorem Observer.Keeps.usage (u : Usage E) (holds : P s.1 s.2.log) :
    P (u.run o s).2.1 (u.run o s).2.2.log := by
  induction u generalizing s with
  | finish result => exact holds
  | use op next ih => exact ih _ _ (h.act op (unobserved s) s.2.log holds)
  | poll onData onEnd onFailure next data ends ih =>
    refine ih _ _ (h.look _ _ (h.onReadPossible onFailure ?_ ?_ (h.look _ _ holds)))
    · exact fun l s => data l _
    · exact fun l s => ends l _

end Delivery

end HttpRequest.Body
