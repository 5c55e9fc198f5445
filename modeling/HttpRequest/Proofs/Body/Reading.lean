import HttpRequest.Proofs.Body.Conveyance

/-! # Reading a fed body

The invariant of an input that reads a channel is that the channel conveys. Each operation of the
reader is a request for content, a feed pulled out, or bytes taken from the buffer, in blocking reads
as in those driven by readiness, so all of them keep it; and what a read answers is true of what was
sent.
-/
namespace HttpRequest.Body

open Channel Input

/-- The input reads a channel that conveys what was sent, and has counted what it gave out. -/
structure Reading (id : ChannelId) (sent : List Feed) (feeders : Nat) (out : Octets) (i : Input) : Prop where
  channel : ∃ c moved, i.source = some (.channel c) ∧ c.id = id ∧ c.feeders = feeders ∧
    Conveyed sent moved out c i.buffer i.failure
  consumed : i.consumed = out.length

/-- Everything sent was given out, and neither an end nor the loss of the last feeder waits. -/
structure Quiet (sent : List Feed) (feeders : Nat) (out : Octets) : Prop where
  whole : out = bodyOf sent
  unended : sent.any Feed.closes = false
  present : feeders ≠ 0

theorem quiet_of_pull {sent moved : List Feed} {out : Octets} {c : Channel} {b : Buffer}
    {failure : Option Failure} (h : Conveyed sent moved out c b failure) (idle : c.pull.1 = false)
    (empty : b.bytes = []) : Quiet sent c.feeders out := by
  obtain ⟨opened,nothing,present⟩ := pull_eq_false_iff.mp idle
  have order : sent = moved := by rw [h.order, nothing, List.append_nil]
  have whole : out = bodyOf moved := by rw [← h.kept, empty, List.append_nil]
  cases h.standing with
  | going _ _ unended => exact ⟨order ▸ whole,order ▸ unended,present⟩
  | stopped closed => exact absurd (closed.symm.trans opened) nofun
  | reported closed => exact absurd (closed.symm.trans opened) nofun

def Answered (sent : List Feed) (feeders : Nat) (out : Octets) : Except Failure Octets → Prop
  | .ok [] => sent.find? Feed.closes = some .finish ∧ out = bodyOf sent
  | .ok bytes => out ++ bytes <+: bodyOf sent
  | .error .timeout => Quiet sent feeders out
  | .error _ => out = bodyOf sent

theorem answered_bytes {sent : List Feed} {feeders : Nat} {out bytes : Octets} (nonempty : bytes ≠ [])
    (comes : out ++ bytes <+: bodyOf sent) : Answered sent feeders out (.ok bytes) := by
  cases bytes with
  | nil => exact absurd rfl nonempty
  | cons b rest => exact comes

theorem answered_failure {sent : List Feed} {feeders : Nat} {out : Octets} {f : Failure}
    (other : f ≠ .timeout) (whole : out = bodyOf sent) : Answered sent feeders out (.error f) := by
  unfold Answered
  split
  next same => cases same
  next same => cases same
  next same => cases same; exact absurd rfl other
  · exact whole

theorem answered_quiet {sent : List Feed} {feeders : Nat} {out : Octets} (quiet : Quiet sent feeders out)
    (f : Failure) : Answered sent feeders out (.error f) := by
  by_cases same : f = .timeout
  · rw [same]
    exact quiet
  · exact answered_failure same quiet.whole

section Idle
variable {E : Type} [ExternalSources E] {s : Input × E} {c : Channel}

theorem settleWithin_of_idle (unsettled : ¬(requestMore s).1.settled = true)
    (source : (requestMore s).1.source = some (.channel c)) (idle : c.pull = (false,c)) (n : Nat) :
    settleWithin (n + 1) s = (.error .timeout,requestMore s) := by
  unfold settleWithin
  generalize requestMore s = t at unsettled source
  obtain ⟨⟨_⟩,e⟩ := t
  dsimp only at unsettled source ⊢
  rw [if_neg unsettled]
  subst source
  simp only [Source.wait, idle]

end Idle

namespace Reading

variable {id : ChannelId} {sent : List Feed} {feeders : Nat} {out : Octets} {i j : Input}

theorem congr (h : Reading id sent feeders out i) (source : j.source = i.source)
    (buffer : j.buffer = i.buffer) (failure : j.failure = i.failure) (consumed : j.consumed = i.consumed) :
    Reading id sent feeders out j := by
  obtain ⟨c,moved,reads,same,count,conveyed⟩ := h.channel
  refine ⟨⟨c,moved,source.trans reads,same,count,?_⟩,consumed.trans h.consumed⟩
  rw [buffer, failure]
  exact conveyed

section Sources
variable {E : Type} [ExternalSources E]

theorem request (h : Reading id sent feeders out i) (e : E) :
    Reading id sent feeders out (requestMore (i,e)).1 ∧
      (¬(requestMore (i,e)).1.settled = true → Quiet sent feeders out ∧
        ∃ c, (requestMore (i,e)).1.source = some (.channel c) ∧ c.pull = (false,c)) := by
  by_cases settled : i.settled = true
  · have same : requestMore (i,e) = (i,e) := requestMore_of_settled settled
    rw [same]
    exact ⟨h,fun unsettled => absurd settled unsettled⟩
  · obtain ⟨c,moved,reads,same,count,conveyed⟩ := h.channel
    obtain ⟨unfailed,goesOn,empty⟩ := unsettled settled
    obtain ⟨more,after,sameId,sameFeeders,rest⟩ := conveyed.produce goesOn
    have asked : requestMore (i,e) = ({ i with
        source := some (.channel (c.produce i.buffer).1), buffer := (c.produce i.buffer).2 },e) := by
      simp only [requestMore, settled, Bool.false_eq_true, if_false, reads, Source.produce]
    rw [asked]
    constructor
    · exact ⟨⟨_,more,rfl,sameId.trans same,sameFeeders.trans count,after⟩,h.consumed⟩
    · intro still
      obtain ⟨-,goesOn,empty⟩ := unsettled still
      obtain ⟨nothing,present⟩ := rest goesOn
      rw [unfailed] at after
      cases after.standing with
      | stopped closed pulled finished => exact absurd (finished.symm.trans goesOn) nofun
      | going opened =>
        have idle := pull_eq_false_iff.mpr ⟨opened,nothing,by rw [sameFeeders]; exact present⟩
        have quiet := quiet_of_pull after idle empty
        rw [sameFeeders, count] at quiet
        exact ⟨quiet,_,rfl,pull_of_false idle⟩

theorem settleWithin (h : Reading id sent feeders out i) (n : Nat) (e : E) :
    Reading id sent feeders out (settleWithin (n + 1) (i,e)).2.1 ∧
      ((settleWithin (n + 1) (i,e)).1 = .ok () ∧ (settleWithin (n + 1) (i,e)).2.1.settled = true ∨
        (settleWithin (n + 1) (i,e)).1 = .error .timeout ∧ Quiet sent feeders out) := by
  obtain ⟨reading,idle⟩ := h.request e
  by_cases settled : (requestMore (i,e)).1.settled = true
  · have found : Input.settleWithin (n + 1) (i,e) = (.ok (),requestMore (i,e)) := by
      simp [Input.settleWithin, settled]
    rw [found]
    exact ⟨reading,.inl ⟨rfl,settled⟩⟩
  · obtain ⟨quiet,c,source,empty⟩ := idle settled
    rw [settleWithin_of_idle settled source empty n]
    exact ⟨reading,.inr ⟨rfl,quiet⟩⟩

theorem prepare (h : Reading id sent feeders out i) (unfailed : i.failure = none) (e : E) :
    Reading id sent feeders out (prepare (i,e)).2.1 ∧
      ((Input.prepare (i,e)).1 = .ok () → (Input.prepare (i,e)).2.1.buffer.bytes = [] →
        (Input.prepare (i,e)).2.1.buffer.finished = true) ∧
      ∀ f, (Input.prepare (i,e)).1 = .error f → Quiet sent feeders out := by
  cases pacing : i.pacing with
  | blocking =>
    have stays := (prepare_course (i,e)).failure.trans unfailed
    have waits : Input.prepare (i,e) = settle (i,e) := by
      unfold Input.prepare
      rw [pacing]
    rw [waits] at stays ⊢
    obtain ⟨reading,settled⟩ := h.settleWithin (i.source.elim 0 (·.patience e)) e
    refine ⟨reading,?_,?_⟩
    · intro ready empty
      rcases settled with ⟨-,settled⟩ | ⟨gaveUp,-⟩
      · have content := (Buffer.hasContent_eq_false_iff _).mpr empty
        unfold settle at content stays ⊢
        simpa [Input.settled, content, stays] using settled
      · unfold settle at ready
        rw [gaveUp] at ready
        cases ready
    · intro f refused
      rcases settled with ⟨ready,-⟩ | ⟨-,quiet⟩
      · unfold settle at refused
        rw [ready] at refused
        cases refused
      · exact quiet
  | async =>
    obtain ⟨reading,idle⟩ := h.request e
    rcases prepare_of_async (s := (i,e)) pacing with ⟨ready,content⟩ | ⟨refused,empty,goesOn⟩
    · rw [ready]
      exact ⟨reading,fun _ => content,fun _ refused => by cases refused⟩
    · have stays : (requestMore (i,e)).1.failure = none :=
        (requestMore_course (i,e)).failure.trans unfailed
      rw [refused]
      refine ⟨reading,fun ready => (by cases ready),fun _ _ => (idle ?_).1⟩
      simp [Input.settled, (Buffer.hasContent_eq_false_iff _).mpr empty, goesOn, stays]

theorem readBuffered (h : Reading id sent feeders out i) (unfailed : i.failure = none)
    (ready : i.buffer.bytes = [] → i.buffer.finished = true) (n : Nat) :
    Reading id sent feeders (out ++ (readBuffered (n + 1) i).1.toOption.getD [])
        (Input.readBuffered (n + 1) i).2 ∧
      Answered sent feeders out (Input.readBuffered (n + 1) i).1 := by
  obtain ⟨c,moved,reads,same,count,conveyed⟩ := h.channel
  unfold Input.readBuffered
  split
  next content =>
    have taken := conveyed.take (n + 1)
    have nonempty : (i.buffer.take (n + 1)).1 ≠ [] := by
      simpa using i.buffer.hasContent_iff.mp content
    refine ⟨⟨⟨c,moved,reads,same,count,taken⟩,?_⟩,answered_bytes nonempty taken.out_prefix⟩
    simp [h.consumed, Except.toOption]
  next contentless =>
    have empty := i.buffer.hasContent_eq_false_iff.mp (by simpa using contentless)
    have whole := conveyed.whole (ready empty)
    rw [empty, List.append_nil] at whole
    rw [unfailed] at conveyed
    cases conveyed.standing with
    | going opened goesOn => exact absurd (goesOn.symm.trans (ready empty)) nofun
    | stopped closed pulled finished ended recorded =>
      split
      next f failed =>
        rw [← recorded, failed] at ended
        have reported := conveyed.report empty failed
        refine ⟨⟨⟨c,moved,reads,same,count,?_⟩,?_⟩,answered_failure ended.ne_timeout whole⟩
        · simpa [Except.toOption] using reported
        · simpa [Except.toOption] using h.consumed
      next unrecorded =>
        rw [← recorded, unrecorded] at ended
        refine ⟨⟨⟨c,moved,reads,same,count,?_⟩,?_⟩,?_,whole⟩
        · simpa [Except.toOption, unfailed] using conveyed
        · simpa [Except.toOption] using h.consumed
        · rw [conveyed.order, List.find?_append, ended.finished]
          rfl

theorem read (h : Reading id sent feeders out i) (n : Nat) (e : E) :
    Reading id sent feeders (out ++ (read (n + 1) (i,e)).1.toOption.getD [])
        (Input.read (n + 1) (i,e)).2.1 ∧
      Answered sent feeders out (Input.read (n + 1) (i,e)).1 := by
  unfold Input.read
  cases failure : i.failure with
  | some f =>
    obtain ⟨c,moved,reads,same,count,conveyed⟩ := h.channel
    have standing := conveyed.standing
    rw [failure] at standing
    cases standing with
    | reported closed pulled finished ended unrecorded empty =>
      have whole := conveyed.whole finished
      rw [empty, List.append_nil] at whole
      exact ⟨by simpa [Except.toOption] using h,answered_failure ended.ne_timeout whole⟩
  | none =>
    obtain ⟨reading,ready,refused⟩ := h.prepare failure e
    have stays := (prepare_course (i,e)).failure.trans failure
    simp only [Nat.add_eq_zero_iff, Nat.one_ne_zero, and_false, if_false]
    generalize Input.prepare (i,e) = t at reading ready refused stays
    obtain ⟨result,j,e⟩ := t
    cases result with
    | error f => exact ⟨by simpa [Except.toOption] using reading,answered_quiet (refused f rfl) f⟩
    | ok _ => exact reading.readBuffered stays (ready rfl) n

theorem read_zero (h : Reading id sent feeders out i) (e : E) :
    Reading id sent feeders (out ++ (Input.read 0 (i,e)).1.toOption.getD []) (Input.read 0 (i,e)).2.1 := by
  unfold Input.read
  cases i.failure <;> simpa [Except.toOption] using h

theorem watch (h : Reading id sent feeders out i) (e : E) :
    Reading id sent feeders out (watch (i,e)).1 := by
  obtain ⟨c,moved,reads,same,count,conveyed⟩ := h.channel
  obtain ⟨sameId,sameClosed,sameFeeders,samePending⟩ := pull_same c
  have pulled : Conveyed sent moved out c.watch.2 i.buffer i.failure :=
    conveyed.of_waiting (waiting_pull c) sameClosed sameFeeders samePending
  unfold Input.watch
  simp only [reads, Source.watch]
  exact ⟨⟨c.watch.2,moved,rfl,sameId.trans same,sameFeeders.trans count,pulled⟩,h.consumed⟩

theorem wait (h : Reading id sent feeders out i) {source : Source} (reads : i.source = some source)
    (milliseconds : Nat) (e : E) :
    Reading id sent feeders out { i with source := some (source.wait milliseconds e).2.1 } ∧
      ((source.wait milliseconds e).1 = .timedOut → i.buffer.bytes = [] → Quiet sent feeders out) := by
  obtain ⟨c,moved,channel,same,count,conveyed⟩ := h.channel
  rw [channel] at reads
  cases reads
  obtain ⟨sameId,sameClosed,sameFeeders,samePending⟩ := pull_same c
  have pulled : Conveyed sent moved out c.pull.2 i.buffer i.failure :=
    conveyed.of_waiting (waiting_pull c) sameClosed sameFeeders samePending
  have quiet := quiet_of_pull conveyed
  simp only [Source.wait]
  generalize c.pull = result at pulled quiet sameId sameFeeders
  obtain ⟨ready,d⟩ := result
  have reading : Reading id sent feeders out { i with source := some (.channel d) } :=
    ⟨⟨d,moved,rfl,sameId.trans same,sameFeeders.trans count,pulled⟩,h.consumed⟩
  cases ready with
  | true => exact ⟨reading,fun timedOut => by cases timedOut⟩
  | false => exact ⟨reading,fun _ empty => count ▸ quiet rfl empty⟩

theorem isReady (h : Reading id sent feeders out i) (e : E) :
    Reading id sent feeders out (isReady (i,e)).2.1 := by
  unfold Input.isReady
  split
  · exact h
  · have asked := (h.request e).1
    dsimp only
    split
    · exact asked
    · exact asked.watch _

end Sources

theorem feed (h : Reading id sent feeders out i) (present : feeders ≠ 0) (f : Feed) :
    Reading id (sent ++ [f]) feeders out (i.feed id f).2 := by
  obtain ⟨c,moved,reads,same,count,conveyed⟩ := h.channel
  have fed : Conveyed (sent ++ [f]) moved out (c.feed f).2 i.buffer i.failure :=
    conveyed.of_feeders (count ▸ present) (List.append_assoc _ _ _).symm rfl rfl
  unfold Input.feed
  simp only [reads, same, if_true]
  exact ⟨⟨(c.feed f).2,moved,rfl,same,count,fed⟩,h.consumed⟩

theorem count (h : Reading id sent feeders out i) (present : feeders ≠ 0) (change : Nat → Nat) :
    Reading id sent (change feeders) out
      (i.changeChannel id fun c => { c with feeders := change c.feeders }) := by
  obtain ⟨c,moved,reads,rfl,rfl,conveyed⟩ := h.channel
  have counted : Conveyed (sent ++ []) moved out { c with feeders := change c.feeders } i.buffer i.failure :=
    conveyed.of_feeders present (List.append_nil _).symm rfl rfl
  rw [List.append_nil] at counted
  unfold changeChannel
  simp only [reads, if_true]
  exact ⟨⟨_,moved,rfl,rfl,rfl,counted⟩,h.consumed⟩

end Reading

end HttpRequest.Body
