import HttpRequest.Proofs.Body.Attachment

/-! # Wakefulness of a fed input

An input that is driven by readiness does nothing until its signal is raised. The invariant between two
moves: the listener was told of the end or of a failure, or the signal is raised, or the input sleeps,
which is to say that nothing waits anywhere and the watch is left that the next feed answers. Only a
poll lowers the signal, and a poll that tells neither of an end nor of a failure ends with a watch.
-/
namespace HttpRequest.Body

open Input

/-- There is something that the listener can be told of. -/
def Stirred (i : Input) : Prop :=
  i.failure.isSome ∨ i.buffer.bytes ≠ [] ∨ i.buffer.finished = true ∨ i.buffer.failure.isSome ∨
    ∃ c, i.source = some (.channel c) ∧ c.waiting ≠ []

/-- Nothing waits in the buffer or in the channel, and the next feed will answer the watch. -/
structure Asleep (id : ChannelId) (i : Input) : Prop where
  channel : ∃ c, i.source = some (.channel c) ∧ c.id = id ∧ c.pull = (false,c) ∧ c.watched = true
  unsettled : ¬i.settled = true

/-- What is there to be told has been told, or the signal is raised, or there is nothing yet. -/
def Attentive (id : ChannelId) (i : Input) : Prop :=
  (i.endTold = true ∨ i.failureTold = true) ∨ i.signal = .raised ∨ Asleep id i

section Sleep
variable {E : Type} [ExternalSources E] {id : ChannelId}

omit [ExternalSources E] in
theorem Asleep.not_stirred {i : Input} (h : Asleep id i) : ¬Stirred i := by
  obtain ⟨unfailed,goesOn,empty⟩ := Input.unsettled h.unsettled
  obtain ⟨c,source,-,idle,-⟩ := h.channel
  have nothing : c.waiting = [] := (Channel.pull_eq_false_iff.mp (by rw [idle])).2.1
  have sound := Buffer.failure_eq_none goesOn
  rintro (failed | bytes | finished | recorded | ⟨d,reads,waits⟩)
  · simp [unfailed] at failed
  · exact bytes empty
  · simp [goesOn] at finished
  · simp [sound] at recorded
  · rw [source] at reads
    cases reads
    exact waits nothing

theorem Asleep.requestMore_eq {s : Input × E} (h : Asleep id s.1) : requestMore s = s := by
  obtain ⟨i,e⟩ := s
  obtain ⟨⟨c,source,-,idle,-⟩,unsettled⟩ := h
  obtain ⟨opened,nothing,present⟩ := Channel.pull_eq_false_iff.mp (congrArg Prod.fst idle)
  obtain ⟨pulled,queue⟩ := List.append_eq_nil_iff.mp nothing
  have produced : c.produce i.buffer = (c,i.buffer) := by
    rw [Channel.produce_of_open opened, nothing]
    have pulled : c.pending = none := by simpa using pulled
    simp only [Channel.drain, if_neg present]
    rw [← queue, ← pulled]
  dsimp only at source unsettled
  simp only [Input.requestMore, unsettled, Bool.false_eq_true, if_false, source, Source.produce,
    produced]
  rw [← source]

theorem watch_attentive {s : Input × E} (reads : s.1.channelId? = some id)
    (unsettled : ¬s.1.settled = true) :
    (watch s).1.signal = .raised ∨ Asleep id (watch s).1 := by
  obtain ⟨i,e⟩ := s
  obtain ⟨c,source,rfl⟩ := channelId?_eq_some_iff.mp reads
  dsimp only at source unsettled
  unfold watch
  simp only [source, Source.watch, Channel.watch]
  cases ready : c.pull.1 with
  | true => exact .inl rfl
  | false =>
    have idle := Channel.pull_of_false ready
    obtain ⟨opened,nothing,present⟩ := Channel.pull_eq_false_iff.mp ready
    refine .inr ⟨⟨_,rfl,?_,?_,rfl⟩,unsettled⟩
    · rw [idle]
    · rw [idle]
      exact Channel.pull_of_false (Channel.pull_eq_false_iff.mpr ⟨opened,nothing,present⟩)

end Sleep

section Delivery
variable {E : Type} [ExternalSources E] {id : ChannelId}

/-- A callback for data that leaves no byte behind unless it fails. It is called of an input that has
bytes and has not failed. -/
def Reaction.Drains (onData : Reaction E) : Prop :=
  ∀ l s, Detached s.1 → s.1.failure = none → s.1.buffer.bytes ≠ [] → (onData l s).1 = .ok () →
    (onData l s).2.1.buffer.bytes = []

/-- A callback leaves the channel, and who listens and was told, as they are. -/
def Reaction.Apart (r : Reaction E) : Prop :=
  ∀ l s, Detached s.1 → (r l s).2.1.channelId? = s.1.channelId? ∧ SameHearing s.1 (r l s).2.1

variable {onData onEnd : Reaction E} (onFailure : ListenerKey → Failure → E → E)
  {s : Input × Audited E} (l : ListenerKey)

theorem tellData_drained (drains : onData.Drains) (apart : onData.Apart) (d : Detached s.1) :
    Detached (tellData (auditing onData onEnd onFailure) l s).1 ∧
      (tellData (auditing onData onEnd onFailure) l s).1.channelId? = s.1.channelId? ∧
      ((tellData (auditing onData onEnd onFailure) l s).1.failure = none →
        (tellData (auditing onData onEnd onFailure) l s).1.buffer.bytes = []) := by
  have channel := requestMore_channelId? s
  have course := requestMore_course s
  unfold tellData
  split
  next failed => exact ⟨d,rfl,fun unfailed => by simp [unfailed] at failed⟩
  next unfailed =>
    have unfailed : s.1.failure = none := Option.not_isSome_iff_eq_none.mp unfailed
    dsimp only
    generalize requestMore s = t at channel course
    have detached : Detached t.1 := (Aside.of_hearing d course.toSameHearing).detached
    split
    next content =>
      have content := t.1.buffer.hasContent_iff.mp content
      simp only [auditing, Attempt.exec_of]
      obtain ⟨told,isTold⟩ : ∃ told, told = (t.1,t.2.note (·.tell (.data t.1.buffer.bytes))) := ⟨_,rfl⟩
      have same : told.1 = t.1 := by rw [isTold]
      rw [← isTold]
      rw [← same] at detached content course channel
      have drained := drains l told detached (course.failure.trans unfailed) content
      have kept := (apart l told detached).1.trans channel
      have detached := (Aside.of_hearing detached (apart l told detached).2).detached
      generalize onData l told = outcome at drained kept detached
      obtain ⟨result,i,e⟩ := outcome
      cases result with
      | ok _ => exact ⟨detached,kept,fun _ => drained rfl⟩
      | error f => exact ⟨⟨detached.pacing,detached.listener⟩,kept,fun unfailed => by simp at unfailed⟩
    next empty =>
      exact ⟨detached,channel,fun _ => (Buffer.hasContent_eq_false_iff _).mp (by simpa using empty)⟩

omit [ExternalSources E] in
theorem tellEnd_told (apart : onEnd.Apart) (d : Detached s.1) :
    (tellEnd (auditing onData onEnd onFailure) l s).1.channelId? = s.1.channelId? ∧
      ((tellEnd (auditing onData onEnd onFailure) l s).1.endTold = true ∨
        (tellEnd (auditing onData onEnd onFailure) l s).1.failureTold = true) := by
  unfold tellEnd
  split
  next told => exact ⟨rfl,.inl told⟩
  · simp only [auditing, Attempt.exec_of]
    obtain ⟨told,isTold⟩ : ∃ told, told = (({ s.1 with endTold := true } : Input),
      s.2.note fun a => a.tell (.ended s.1.failure a.toTally)) := ⟨_,rfl⟩
    have detached : Detached told.1 ∧ told.1.channelId? = s.1.channelId? ∧ told.1.endTold = true := by
      rw [isTold]
      exact ⟨⟨d.pacing,d.listener⟩,rfl,rfl⟩
    rw [← isTold]
    have called := apart l told detached.1
    generalize onEnd l told = outcome at called
    obtain ⟨result,i,e⟩ := outcome
    have same : i.channelId? = s.1.channelId? := called.1.trans detached.2.1
    have ended : i.endTold = true := called.2.endTold.trans detached.2.2
    cases result with
    | ok _ => exact ⟨same,.inl ended⟩
    | error f => exact ⟨same,.inr rfl⟩

omit [ExternalSources E] in
theorem surfaceFailure_drained {i : Input} (d : Detached i)
    (drained : i.failure = none → i.buffer.bytes = []) :
    Detached i.surfaceFailure ∧ i.surfaceFailure.channelId? = i.channelId? ∧
      (i.surfaceFailure.failure = none → i.surfaceFailure.buffer.bytes = []) := by
  unfold surfaceFailure
  split
  next surfaces =>
    have empty := (Bool.and_eq_true_iff.mp surfaces).2
    exact ⟨⟨d.pacing,d.listener⟩,rfl,
      fun _ => (Buffer.hasContent_eq_false_iff i.buffer).mp (by simpa using empty)⟩
  · exact ⟨d,rfl,drained⟩

theorem deliver_attentive (drains : onData.Drains) (data : onData.Apart) (ends : onEnd.Apart)
    (d : Detached s.1) (reads : s.1.channelId? = some id) :
    (deliver (auditing onData onEnd onFailure) l s).2.1.channelId? = some id ∧
      Attentive id (deliver (auditing onData onEnd onFailure) l s).2.1 := by
  obtain ⟨detached,channel,drained⟩ := tellData_drained onFailure l drains data d
  unfold deliver
  dsimp only
  generalize tellData (auditing onData onEnd onFailure) l s = t at detached channel drained
  obtain ⟨detached,same,drained⟩ := surfaceFailure_drained detached drained
  replace channel := same.trans (channel.trans reads)
  generalize t.1.surfaceFailure = i at detached channel drained
  split
  next f failed =>
    unfold tellFailure
    split
    next told => exact ⟨channel,.inl (.inr told)⟩
    · exact ⟨channel,.inl (.inr rfl)⟩
  next unfailed =>
    have empty := (Buffer.hasContent_eq_false_iff i.buffer).mpr (drained unfailed)
    split
    next finished =>
      obtain ⟨same,told⟩ := tellEnd_told (s := (i,t.2)) onFailure l ends detached
      exact ⟨same.trans channel,.inl told⟩
    next goesOn =>
      have unsettled : ¬i.settled = true := by
        simpa [settled, isFinished, empty, unfailed] using goesOn
      rw [if_neg (by simp [empty])]
      exact ⟨(watch_channelId? (i,t.2)).trans channel,.inr (watch_attentive channel unsettled)⟩

end Delivery

section Moves
variable {E : Type} [ExternalSources E] {id : ChannelId}

theorem setListener_raised {i j : Input} {l : ListenerKey} (set : i.setListener l = .ok j) :
    j.signal = .raised ∧ j.listener.isSome = true := by
  unfold setListener at set
  split at set
  · cases set
  · split at set
    · cases set
    · cases set
      exact ⟨rfl,rfl⟩

def feedersOf (i : Input) : Nat :=
  match i.source with
  | some (.channel c) => c.feeders
  | _ => 0

/-- What happens to an input that reads a channel, once it has a listener. -/
inductive Move (E : Type) where
  | feed (f : Feed)
  | clone
  | drop
  | isReady
  | fail (f : Failure)
  | poll (onData onEnd : ListenerKey → Input × E → Conduct E)
      (onFailure : ListenerKey → Failure → E → E)

namespace Move

/-- Does a move. The last feeder stays. -/
def run (id : ChannelId) (m : Move E) (s : Input × Audited E) : Input × Audited E :=
  match m with
  | feed f => (Act.feed id f).run s
  | clone => (Act.addFeeder id).run s
  | drop => if feedersOf s.1 ≤ 1 then s else (Act.dropFeeder id).run s
  | isReady => Act.isReady.run s
  | fail f => (Act.fail f).run s
  | poll onData onEnd onFailure =>
    ((Conduct.poll onData onEnd onFailure fun _ _ => .finish (.ok ())).run s).2

def Drains : Move E → Prop
  | poll onData _ _ => Reaction.Drains fun l s => (onData l (plain s)).run s
  | _ => True

end Move

structure Vigilant (id : ChannelId) (s : Input × Audited E) : Prop where
  reads : s.1.channelId? = some id
  listens : s.1.listener.isSome = true
  opened : Opened s
  attentive : Attentive id s.1

theorem Attentive.feed {i : Input} (h : Attentive id i) (f : Feed) : Attentive id (i.feed id f).2 := by
  have heard := (feed_course i id f).1
  rcases h with told | raised | asleep
  · rw [← heard.endTold, ← heard.failureTold] at told
    exact .inl told
  · refine .inr (.inl ?_)
    unfold Input.feed
    split
    · split
      · simp only [Signal.raiseIf, raised, ite_self]
      · exact raised
    · exact raised
  · obtain ⟨⟨c,source,same,-,watched⟩,-⟩ := asleep
    refine .inr (.inl ?_)
    simp only [Input.feed, source, same, if_true, Channel.feed, watched, Signal.raiseIf]

theorem Attentive.countFeeders {i : Input} (h : Attentive id i) (change : Nat → Nat)
    (present : feedersOf i ≠ 0 → change (feedersOf i) ≠ 0) :
    Attentive id (i.changeChannel id fun c => { c with feeders := change c.feeders }) := by
  have heard := (changeChannel_course i id fun c => { c with feeders := change c.feeders }).1
  rcases h with told | raised | asleep
  · rw [← heard.endTold, ← heard.failureTold] at told
    exact .inl told
  · refine .inr (.inl ?_)
    unfold changeChannel
    split
    · split <;> exact raised
    · exact raised
  · obtain ⟨⟨c,source,rfl,idle,watched⟩,unsettled⟩ := asleep
    obtain ⟨opened,nothing,fed⟩ := Channel.pull_eq_false_iff.mp (congrArg Prod.fst idle)
    have left : change c.feeders ≠ 0 := by simpa [feedersOf, source, fed] using present
    have idle : ({ c with feeders := change c.feeders } : Channel).pull.1 = false :=
      Channel.pull_eq_false_iff.mpr ⟨opened,nothing,left⟩
    simp only [changeChannel, source, if_true]
    exact .inr (.inr ⟨⟨_,rfl,rfl,Channel.pull_of_false idle,watched⟩,unsettled⟩)

theorem requestMore_signal (s : Input × E) : (requestMore s).1.signal = s.1.signal := by
  obtain ⟨i,e⟩ := s
  unfold requestMore
  dsimp only
  split
  · rfl
  · cases i.source <;> rfl

theorem Attentive.isReady {s : Input × E} (h : Attentive id s.1) (async : s.1.pacing = .async)
    (reads : s.1.channelId? = some id) : Attentive id (isReady s).2.1 := by
  have heard := (isReady_course s).toSameHearing
  have asks : (Input.isReady s).2 =
      if (requestMore s).1.settled then requestMore s else watch (requestMore s) := by
    unfold Input.isReady
    rw [async]
    dsimp only
    split <;> rfl
  rcases h with told | h
  · rw [← heard.endTold, ← heard.failureTold] at told
    exact .inl told
  · rw [asks]
    split
    next settled =>
      rcases h with raised | asleep
      · exact .inr (.inl ((requestMore_signal s).trans raised))
      · rw [asleep.requestMore_eq] at settled
        exact absurd settled asleep.unsettled
    next unsettled =>
      exact .inr (watch_attentive ((requestMore_channelId? s).trans reads) unsettled)

theorem Attentive.fail {i : Input} (h : Attentive id i) (f : Failure) : Attentive id (i.fail f).2 := by
  unfold Input.fail
  split
  · exact h
  · exact .inr (.inl rfl)

theorem Conduct.run_apart (c : ListenerKey → Input × E → Conduct E) :
    Reaction.Apart fun l s => (c l (plain s)).run s := fun l s d =>
  ⟨(c l (plain s)).run_channelId? d,(c l (plain s)).run_hearing d⟩

/-- After a poll the input is attentive again, because a delivery ends with a watch unless it told of
an end or of a failure. -/
theorem Vigilant.onReadPossible {s : Input × Audited E} (h : Vigilant id s) {onData onEnd : Reaction E}
    (onFailure : ListenerKey → Failure → E → E) (drains : onData.Drains) (data : onData.Apart)
    (ends : onEnd.Apart) {t : Input × Audited E}
    (polled : (Input.onReadPossible (auditing onData onEnd onFailure) (acceptIncoming s)).2 = t) :
    t.1.channelId? = some id ∧ t.1.listener.isSome = true ∧ Attentive id t.1 := by
  obtain ⟨a,account,sound⟩ := h.opened
  obtain ⟨l,listener⟩ := Option.isSome_iff_exists.mp h.listens
  have here : (acceptIncoming s).1.listener = some l := listener
  have detached : Detached { s.1 with signal := .idle, listener := none } := ⟨sound.pacing,rfl⟩
  obtain ⟨channel,attentive⟩ := deliver_attentive onFailure l drains data ends
    (s := ({ s.1 with signal := .idle, listener := none },(acceptIncoming s).2)) detached h.reads
  simp only [Input.onReadPossible, here] at polled
  subst polled
  refine ⟨channel,by simp,?_⟩
  rcases attentive with told | raised | asleep
  · exact .inl told
  · exact .inr (.inl raised)
  · exact .inr (.inr ⟨asleep.channel,asleep.unsettled⟩)

theorem Vigilant.act {s : Input × Audited E} (h : Vigilant id s) (act : Act E)
    (attentive : Attentive id (act.run s).1) : Vigilant id (act.run s) := by
  obtain ⟨a,account,sound⟩ := h.opened
  have listens : (act.run s).1.listener.isSome = true := by
    rw [(act.run_hearing sound.pacing).listener]
    exact h.listens
  exact ⟨(act.run_channelId? s).trans h.reads,listens,
    (act.run_accounted h.opened.accounted).opened (.inr listens),attentive⟩

theorem Move.run_vigilant (m : Move E) {s : Input × Audited E} (h : Vigilant id s) (drains : m.Drains) :
    Vigilant id (m.run id s) := by
  cases m with
  | feed f => exact h.act (.feed id f) (h.attentive.feed f)
  | clone => exact h.act (.addFeeder id) (h.attentive.countFeeders (· + 1) fun _ => Nat.succ_ne_zero _)
  | drop =>
    by_cases last : feedersOf s.1 ≤ 1
    · simpa only [Move.run, if_pos last] using h
    · have dropped : Vigilant id ((Act.dropFeeder id).run s) :=
        h.act (.dropFeeder id) (h.attentive.countFeeders (· - 1) fun _ => by omega)
      simpa only [Move.run, if_neg last] using dropped
  | isReady =>
    obtain ⟨a,account,sound⟩ := h.opened
    exact h.act .isReady (Attentive.isReady (s := acceptIncoming s) h.attentive sound.pacing h.reads)
  | fail f => exact h.act (.fail f) (h.attentive.fail f)
  | poll onData onEnd onFailure =>
    have polled : (Input.onReadPossible (auditing (fun l s => (onData l (plain s)).run s)
        (fun l s => (onEnd l (plain s)).run s) onFailure) (acceptIncoming s)).2 =
          (Move.poll onData onEnd onFailure).run id s := by
      simp only [Move.run, Conduct.run, h.listens, if_true]
    obtain ⟨reads,listens,attentive⟩ := h.onReadPossible onFailure drains (Conduct.run_apart onData)
      (Conduct.run_apart onEnd) polled
    have accounted : Accounted ((Move.poll onData onEnd onFailure).run id s) :=
      Conduct.run_accounted _ h.opened.accounted
    exact ⟨reads,listens,accounted.opened (.inr listens),attentive⟩

theorem moves_vigilant {moves : List (Move E)} (drains : ∀ m ∈ moves, m.Drains)
    {s : Input × Audited E} (h : Vigilant id s) : Vigilant id (moves.foldl (fun s m => m.run id s) s) := by
  induction moves generalizing s with
  | nil => exact h
  | cons m rest ih =>
    exact ih (fun n mem => drains n (.tail m mem)) (m.run_vigilant h (drains m (.head rest)))

theorem Sound.untold {i : Input} {a : Account} (h : Sound i a) (data : ∀ t ∈ a.told, t.kind = .data) :
    i.endTold = false ∧ i.failureTold = false := by
  obtain ⟨k,word⟩ := h.word
  have only : ∀ kind ∈ a.told.map Told.kind, kind = .data := by simpa using data
  rw [word] at only
  constructor
  · cases told : i.endTold with
    | false => rfl
    | true => exact absurd (only .ended (by simp [told])) nofun
  · cases told : i.failureTold with
    | false => rfl
    | true => exact absurd (only .failed (by simp [told])) nofun

theorem Attentive.untold {i : Input} (h : Attentive id i) {a : Account} (sound : Sound i a)
    (data : ∀ t ∈ a.told, t.kind = .data) : i.signal = .raised ∨ Asleep id i := by
  obtain ⟨endUntold,failureUntold⟩ := sound.untold data
  rcases h with (ended | failed) | due
  · exact absurd (endUntold.symm.trans ended) nofun
  · exact absurd (failureUntold.symm.trans failed) nofun
  · exact due

end Moves

section Runs
variable {E : Type} [ExternalSources E]

def attached (timeout : Nat) (c : Channel) (expectsContinue : Bool) (e : E) : Input × Audited E :=
  ((Input.new timeout).attach (.channel c) expectsContinue,{ env := e })

/-- Sets a listener after some steps, and goes on with moves. -/
def listening (start : Input × Audited E) (before : List (Act E)) (l : ListenerKey) (id : ChannelId)
    (moves : List (Move E)) : Input × Audited E :=
  moves.foldl (fun s m => m.run id s)
    ((Act.setListener l).run (before.foldl (fun s act => act.run s) start))

theorem listening_vigilant (timeout : Nat) (c : Channel) (expectsContinue : Bool) (e : E)
    (before : List (Act E)) {l : ListenerKey} {j : Input}
    (set : (before.foldl (fun s act => act.run s) (attached timeout c expectsContinue e)).1.setListener l
      = .ok j) {moves : List (Move E)} (drains : ∀ m ∈ moves, m.Drains) :
    Vigilant c.id (listening (attached timeout c expectsContinue e) before l c.id moves) := by
  have fresh : Accounted (attached timeout c expectsContinue e) :=
    (accounted_none rfl).mpr ⟨rfl,rfl,rfl,rfl,nofun⟩
  have begun : Accounted (before.foldl (fun s act => act.run s) (attached timeout c expectsContinue e)) ∧
      (before.foldl (fun s act => act.run s) (attached timeout c expectsContinue e)).1.channelId? =
        some c.id := by
    refine List.foldlRecOn before _ (motive := fun s => Accounted s ∧ s.1.channelId? = some c.id)
      ⟨fresh,rfl⟩ ?_
    intro s h act _
    exact ⟨act.run_accounted h.1,(act.run_channelId? s).trans h.2⟩
  unfold listening
  generalize before.foldl (fun s act => act.run s) (attached timeout c expectsContinue e) = s at set begun
  have heard : ((Act.setListener l).run s).1 = j := by simp only [Act.run, set]
  obtain ⟨raised,listens⟩ := setListener_raised set
  rw [← heard] at raised listens
  exact moves_vigilant drains ⟨((Act.setListener l).run_channelId? s).trans begun.2,listens,
    ((Act.setListener l).run_accounted begun.1).opened (.inr listens),.inr (.inl raised)⟩

/-- Whenever feeders and the coordinator of an input with a draining listener have moved, and the
listener was told of nothing but data, a feed that waits, bytes, an end or a failure means that the
signal is raised. -/
theorem stirred_raises (timeout : Nat) (c : Channel) (expectsContinue : Bool) (e : E)
    (before : List (Act E)) {l : ListenerKey} {j : Input}
    (set : (before.foldl (fun s act => act.run s) (attached timeout c expectsContinue e)).1.setListener l
      = .ok j) {moves : List (Move E)} (drains : ∀ m ∈ moves, m.Drains) {s : Input × Audited E}
    (moved : s = listening (attached timeout c expectsContinue e) before l c.id moves) :
    ∃ a, s.2.account = some a ∧
      ((∀ t ∈ a.told, t.kind = .data) → Stirred s.1 → s.1.signal = .raised) := by
  have vigilant := listening_vigilant timeout c expectsContinue e before set drains
  rw [← moved] at vigilant
  obtain ⟨-,-,⟨a,account,sound⟩,attentive⟩ := vigilant
  refine ⟨a,account,?_⟩
  intro data stirred
  exact (attentive.untold sound data).resolve_right fun asleep => asleep.not_stirred stirred

end Runs

section Feedback

/-- Reads all that is buffered, and feeds the channel. -/
def answerBack (id : ChannelId) :
    ListenerKey → Input × Scripted.Environment Unit → Conduct (Scripted.Environment Unit) :=
  fun _ s => .act (.read s.1.buffer.available) fun _ _ =>
    .act (.feed id (.chunk [7])) fun _ _ => .finish (.ok ())

theorem answerBack_drains (id : ChannelId) :
    Reaction.Drains fun l s => (answerBack id l (plain s)).run s := by
  intro l s d unfailed bytes _
  have content := s.1.buffer.hasContent_iff.mpr bytes
  have available : s.1.buffer.available ≠ 0 := by simpa [Buffer.hasContent, Nat.pos_iff_ne_zero] using content
  have settled : (acceptIncoming s).1.settled = true := by
    change s.1.settled = true
    simp [settled, content]
  have ready : prepare (acceptIncoming s) = (.ok (),acceptIncoming s) := by
    have async : (acceptIncoming s).1.pacing = .async := d.pacing
    have holds : (acceptIncoming s).1.buffer.hasContent = true := content
    simp only [prepare, async, requestMore_of_settled settled, holds, Bool.true_or, if_true]
  have unfailed : (acceptIncoming s).1.failure = none := unfailed
  have holds : (acceptIncoming s).1.buffer.hasContent = true := content
  simp only [answerBack, plain, Conduct.run, Act.run, if_neg available, Input.read, unfailed, ready,
    readBuffered, holds, if_true, (feed_course _ _ _).2, Buffer.bytes_take]
  rw [s.1.buffer.counted]
  exact List.drop_length

def pollBack : Move (Scripted.Environment Unit) :=
  .poll (answerBack ⟨0⟩) (answerBack ⟨0⟩) fun _ _ e => e

def feedbackStart : Input × Audited (Scripted.Environment Unit) :=
  attached 30000 { id := ⟨0⟩ } false { kept := () }

def feedbackMoves : List (Move (Scripted.Environment Unit)) :=
  [pollBack,.clone,.feed (.chunk [1,2]),.isReady,pollBack,.drop]

theorem feedbackMoves_drain : ∀ m ∈ feedbackMoves, m.Drains := by
  simp only [feedbackMoves, List.forall_mem_cons]
  exact ⟨answerBack_drains ⟨0⟩,trivial,trivial,trivial,answerBack_drains ⟨0⟩,trivial,by simp⟩

/-- The chunk that the callback fed by itself waits behind a raised signal. -/
theorem feedback_raised :
    (∃ j, feedbackStart.1.setListener ⟨0⟩ = .ok j) ∧ (∀ m ∈ feedbackMoves, m.Drains) ∧
      (listening feedbackStart [] ⟨0⟩ ⟨0⟩ feedbackMoves).2.account =
        some { accepted := [1,2], given := [1,2], told := [.data [1,2]] } ∧
      Stirred (listening feedbackStart [] ⟨0⟩ ⟨0⟩ feedbackMoves).1 ∧
      (listening feedbackStart [] ⟨0⟩ ⟨0⟩ feedbackMoves).1.signal = .raised := by
  have heard : (listening feedbackStart [] ⟨0⟩ ⟨0⟩ feedbackMoves).2.account =
      some { accepted := [1,2], given := [1,2], told := [.data [1,2]] } := by decide +kernel
  have source : (listening feedbackStart [] ⟨0⟩ ⟨0⟩ feedbackMoves).1.source =
      some (.channel { id := ⟨0⟩, pending := some (.chunk [7]) }) := by decide +kernel
  have stirred : Stirred (listening feedbackStart [] ⟨0⟩ ⟨0⟩ feedbackMoves).1 :=
    .inr (.inr (.inr (.inr ⟨_,source,by decide⟩)))
  obtain ⟨a,account,raises⟩ := stirred_raises (E := Scripted.Environment Unit) 30000 { id := ⟨0⟩ } false
    { kept := () } [] (l := ⟨0⟩) rfl feedbackMoves_drain rfl
  cases heard.symm.trans account
  exact ⟨⟨_,rfl⟩,feedbackMoves_drain,heard,stirred,raises (by decide) stirred⟩

end Feedback

end HttpRequest.Body
