import HttpRequest.Proofs.Body.Wakefulness

/-! # An input without feeders

The feeders reach a sleeping input through its watch alone. When the last one goes nobody is left to
answer it: there is an end to be told of, and the next poll would tell it, but no signal asks for that
poll.
-/
namespace HttpRequest.Body

open Input

variable {E : Type} [ExternalSources E] {id : ChannelId}

/-- Nothing is left to read, and who asks for content finds the early end of a channel without
feeders. -/
structure Forsaken (i : Input) : Prop where
  unfailed : i.failure = none
  empty : i.buffer.bytes = []
  ends : i.buffer.failure = some .earlyEof ∨ i.buffer.finished = false ∧
    ∃ c, i.source = some (.channel c) ∧ c.closed = false ∧ c.waiting = [] ∧ c.feeders = 0

theorem Asleep.dropFeeder {i : Input} (h : Asleep id i) (sole : feedersOf i = 1) :
    Forsaken (i.dropFeeder id) ∧ (i.dropFeeder id).signal = i.signal := by
  obtain ⟨unfailed,goesOn,empty⟩ := Input.unsettled h.unsettled
  obtain ⟨⟨c,source,rfl,idle,-⟩,-⟩ := h
  obtain ⟨opened,nothing,-⟩ := Channel.pull_eq_false_iff.mp (congrArg Prod.fst idle)
  have sole : c.feeders = 1 := by simpa [feedersOf, source] using sole
  have dropped : i.dropFeeder c.id =
      { i with source := some (.channel { c with feeders := c.feeders - 1 }) } := by
    simp only [Input.dropFeeder, changeChannel, source, if_true]
  rw [dropped]
  exact ⟨⟨unfailed,empty,.inr ⟨goesOn,_,rfl,opened,nothing,by simp [sole]⟩⟩,rfl⟩

theorem Forsaken.requestMore {s : Input × E} (h : Forsaken s.1) :
    Forsaken (requestMore s).1 ∧ (requestMore s).1.buffer.failure = some .earlyEof := by
  obtain ⟨i,e⟩ := s
  change Forsaken i at h
  obtain ⟨unfailed,empty,failing | ⟨goesOn,c,source,opened,nothing,gone⟩⟩ := h
  · have ended := i.buffer.ended (Option.isSome_of_mem failing)
    have settled : i.settled = true := by simp [settled, ended]
    rw [requestMore_of_settled settled]
    exact ⟨⟨unfailed,empty,.inl failing⟩,failing⟩
  · have contentless := (Buffer.hasContent_eq_false_iff i.buffer).mpr empty
    have unsettled : ¬i.settled = true := by simp [settled, contentless, goesOn, unfailed]
    have failing : (i.buffer.fail .earlyEof).failure = some .earlyEof := by
      simp only [Buffer.fail, Buffer.failure_eq_none goesOn, Option.none_or]
    simp only [Input.requestMore, unsettled, Bool.false_eq_true, if_false, source, Source.produce,
      Channel.produce_of_open opened, nothing, Channel.drain, gone, if_true]
    exact ⟨⟨unfailed,empty,.inl failing⟩,failing⟩

/-- A forsaken input is ready to be read, for there is an end to be told of, but only says so when it is
asked: nothing raises the signal. -/
theorem Forsaken.isReady {s : Input × E} (h : Forsaken s.1) (async : s.1.pacing = .async) :
    isReady s = (true,Input.requestMore s) := by
  have ended := (Input.requestMore s).1.buffer.ended (Option.isSome_of_mem h.requestMore.2)
  have settled : (Input.requestMore s).1.settled = true := by simp [settled, ended]
  simp only [Input.isReady, async, settled, if_true]

theorem Forsaken.onReadPossible {s : Input × E} (h : Forsaken s.1) {l : ListenerKey}
    (listener : s.1.listener = some l) (untold : s.1.failureTold = false) (cb : Callbacks E) :
    (onReadPossible cb s).2.2 =
      cb.onFailure l .earlyEof
        (Input.requestMore ({ s.1 with signal := .idle, listener := none },s.2)).2 := by
  simp only [Input.onReadPossible, listener]
  obtain ⟨low,isLow⟩ : ∃ low, low = ({ s.1 with signal := .idle, listener := none },s.2) := ⟨_,rfl⟩
  have lowered : Forsaken low.1 ∧ low.1.failureTold = false := by
    rw [isLow]
    exact ⟨⟨h.unfailed,h.empty,h.ends⟩,untold⟩
  rw [← isLow]
  obtain ⟨forsaken,failing⟩ := lowered.1.requestMore
  unfold deliver
  have course := requestMore_course low
  have contentless := (Buffer.hasContent_eq_false_iff _).mpr forsaken.empty
  have tells : tellData cb l low = Input.requestMore low := by
    simp only [tellData, lowered.1.unfailed, contentless, Option.isSome_none, Bool.false_eq_true, if_false]
  have untold := course.failureTold.trans lowered.2
  rw [tells]
  generalize Input.requestMore low = t at forsaken failing contentless untold
  simp only [surfaceFailure, forsaken.unfailed, contentless, failing, tellFailure, untold]
  rfl

theorem Forsaken.acceptIncoming {s : Input × Audited E} (h : Forsaken s.1) : acceptIncoming s = s := by
  have bytes := requestMore_bytes s
  rw [h.requestMore.1.empty, h.empty, List.nil_append] at bytes
  simp only [HttpRequest.Body.acceptIncoming, ← bytes, Account.accept, List.append_nil, Audited.note,
    Option.map_id']

structure Stranded (a : Account) (s : Input × Audited E) : Prop where
  forsaken : Forsaken s.1
  pacing : s.1.pacing = .async
  listens : s.1.listener.isSome = true
  untold : s.1.failureTold = false
  account : s.2.account = some a

theorem Stranded.isReady {a : Account} {s : Input × Audited E} (h : Stranded a s) :
    Stranded a (Act.isReady.run s) ∧ (Act.isReady.run s).1.signal = s.1.signal := by
  have asks : Act.isReady.run s = requestMore s := by
    simp only [Act.run, h.forsaken.acceptIncoming, h.forsaken.isReady h.pacing]
  have heard := requestMore_course s
  rw [asks]
  refine ⟨⟨h.forsaken.requestMore.1,heard.pacing.trans h.pacing,?_,heard.failureTold.trans h.untold,?_⟩,
    requestMore_signal s⟩
  · rw [heard.listener]
    exact h.listens
  · exact (requestMore_account s).trans h.account

theorem Stranded.poll {a : Account} {s : Input × Audited E} (h : Stranded a s)
    (onData onEnd : ListenerKey → Input × E → Conduct E) (onFailure : ListenerKey → Failure → E → E) :
    ((Move.poll onData onEnd onFailure).run id s).2.account =
      some (a.tell (.failed .earlyEof a.toTally)) := by
  obtain ⟨l,listener⟩ := Option.isSome_iff_exists.mp h.listens
  obtain ⟨cb,isCb⟩ : ∃ cb, cb = auditing (fun l s => (onData l (plain s)).run s)
    (fun l s => (onEnd l (plain s)).run s) onFailure := ⟨_,rfl⟩
  have tells : ∀ f e,
      (cb.onFailure l f e).account = e.account.map fun a => a.tell (.failed f a.toTally) := by
    rw [isCb]
    exact fun _ _ => rfl
  have polled : (Move.poll onData onEnd onFailure).run id s = (Input.onReadPossible cb s).2 := by
    simp only [Move.run, Conduct.run, h.listens, if_true, h.forsaken.acceptIncoming, isCb]
  rw [polled, h.forsaken.onReadPossible listener h.untold cb, tells, requestMore_account, h.account]
  rfl

/-- The last feeder goes, and then the readiness is asked for `n` times. -/
def askedAfterDrop (id : ChannelId) (n : Nat) (s : Input × Audited E) : Input × Audited E :=
  Nat.repeat Act.isReady.run n ((Act.dropFeeder id).run s)

theorem Asleep.stranded {s : Input × Audited E} (h : Asleep id s.1) (sole : feedersOf s.1 = 1)
    (listens : s.1.listener.isSome = true) {a : Account} (account : s.2.account = some a)
    (sound : Sound s.1 a) (untold : s.1.failureTold = false) (n : Nat) :
    Stranded a (askedAfterDrop id n s) ∧ (askedAfterDrop id n s).1.signal = s.1.signal := by
  induction n with
  | zero =>
    obtain ⟨forsaken,signal⟩ := h.dropFeeder sole
    have heard := (Act.dropFeeder id).run_hearing sound.pacing
    rw [← heard.listener] at listens
    exact ⟨⟨forsaken,heard.pacing.trans sound.pacing,listens,heard.failureTold.trans untold,account⟩,signal⟩
  | succ n ih =>
    obtain ⟨stranded,signal⟩ := ih.1.isReady
    exact ⟨stranded,signal.trans ih.2⟩

/-- Whenever a draining listener was told of nothing but data and the signal is not raised, it stays so
when the last feeder goes, however often the readiness is asked for. The early end waits for a poll
that no signal asks for. -/
theorem lastDrop_unannounced (timeout : Nat) (c : Channel) (expectsContinue : Bool) (e : E)
    (before : List (Act E)) {l : ListenerKey} {j : Input}
    (set : (before.foldl (fun s act => act.run s) (attached timeout c expectsContinue e)).1.setListener l
      = .ok j) {moves : List (Move E)} (drains : ∀ m ∈ moves, m.Drains) {s : Input × Audited E}
    (moved : s = listening (attached timeout c expectsContinue e) before l c.id moves)
    (sole : feedersOf s.1 = 1) (lowered : s.1.signal ≠ .raised) {a : Account} (account : s.2.account = some a)
    (data : ∀ t ∈ a.told, t.kind = .data) (n : Nat) :
    (askedAfterDrop c.id n s).1.signal ≠ .raised ∧
      ∀ onData onEnd onFailure,
        ((Move.poll onData onEnd onFailure).run c.id (askedAfterDrop c.id n s)).2.account =
          some (a.tell (.failed .earlyEof a.toTally)) := by
  have vigilant := listening_vigilant timeout c expectsContinue e before set drains
  rw [← moved] at vigilant
  obtain ⟨-,listens,⟨b,opened,sound⟩,attentive⟩ := vigilant
  cases account.symm.trans opened
  have asleep := (attentive.untold sound data).resolve_left lowered
  obtain ⟨stranded,signal⟩ := asleep.stranded sole listens account sound (sound.untold data).2 n
  rw [signal]
  exact ⟨lowered,stranded.poll⟩

/-- The channel of an idle listener whose only feeder goes. -/
theorem idleDrop_unannounced :
    (∃ j, feedbackStart.1.setListener ⟨0⟩ = .ok j) ∧ (∀ m ∈ [pollBack], m.Drains) ∧
      (listening feedbackStart [] ⟨0⟩ ⟨0⟩ [pollBack]).2.account = some { accepted := [] } ∧
      (askedAfterDrop ⟨0⟩ 2 (listening feedbackStart [] ⟨0⟩ ⟨0⟩ [pollBack])).1.signal ≠ .raised ∧
      (pollBack.run ⟨0⟩ (askedAfterDrop ⟨0⟩ 2 (listening feedbackStart [] ⟨0⟩ ⟨0⟩ [pollBack]))).2.account =
        some { accepted := [], told := [.failed .earlyEof { accepted := [] }] } := by
  have drains : ∀ m ∈ [pollBack], m.Drains := by
    simp only [List.forall_mem_cons]
    exact ⟨answerBack_drains ⟨0⟩,by simp⟩
  have account : (listening feedbackStart [] ⟨0⟩ ⟨0⟩ [pollBack]).2.account = some { accepted := [] } := by
    decide +kernel
  obtain ⟨silent,tells⟩ := lastDrop_unannounced (E := Scripted.Environment Unit) 30000 { id := ⟨0⟩ } false
    { kept := () } [] (l := ⟨0⟩) rfl drains rfl (by decide +kernel) (by decide +kernel) account nofun 2
  exact ⟨⟨_,rfl⟩,drains,account,silent,tells _ _ _⟩

/-- A watch is left and nobody ever answers it. -/
theorem idleDrop_armed :
    feedersOf (listening feedbackStart [] ⟨0⟩ ⟨0⟩ [pollBack]).1 = 1 ∧
      (listening feedbackStart [] ⟨0⟩ ⟨0⟩ [pollBack]).2.account = some { accepted := [] } ∧
      (askedAfterDrop ⟨0⟩ 0 (listening feedbackStart [] ⟨0⟩ ⟨0⟩ [pollBack])).1.signal = .armed := by
  decide +kernel

end HttpRequest.Body
