import HttpRequest.Body.Input

/-! # What a request for content brings

Every source delivers through the same three calls on the buffer, so a request for content is a list of
deliveries that the buffer receives in order. Nothing else of the input changes with it, the source
itself apart. The same holds of a watch, which brings nothing.
-/
namespace HttpRequest.Body

namespace Channel

/-- The feeds up to the first one that closes the channel, that one included. -/
def through : List Feed → List Feed
  | [] => []
  | f :: rest => if f.closes then [f] else f :: through rest

theorem drain_fst (feeds : List Feed) (b : Buffer) : (drain feeds b).1 = feeds.any Feed.closes := by
  induction feeds generalizing b with
  | nil => rfl
  | cons f rest ih =>
    unfold drain
    split
    next closes => simp [closes]
    next goesOn => simp [goesOn, ih]

theorem drain_buffer (feeds : List Feed) (b : Buffer) :
    (drain feeds b).2.2 = ((through feeds).map Feed.delivery).foldl Buffer.receive b := by
  induction feeds generalizing b with
  | nil => rfl
  | cons f rest ih =>
    unfold drain through
    split
    next closes => rfl
    next goesOn => simp only [ih, List.map_cons, List.foldl_cons]

theorem through_append_drain (feeds : List Feed) (b : Buffer) :
    through feeds ++ (drain feeds b).2.1 = feeds := by
  induction feeds generalizing b with
  | nil => rfl
  | cons f rest ih =>
    unfold drain through
    split
    next closes => rfl
    next goesOn => simp [ih]

def waiting (c : Channel) : List Feed :=
  c.pending.toList ++ c.queue

theorem produce_of_open {c : Channel} (opened : c.closed = false) (b : Buffer) :
    c.produce b = match drain c.waiting b with
      | (true, queue, b) => ({ c with pending := none, queue, closed := true }, b)
      | (false, _, b) =>
        if c.feeders = 0 then ({ c with pending := none, queue := [], closed := true }, b.fail .earlyEof)
        else ({ c with pending := none, queue := [] }, b) := by
  obtain ⟨id,queue,pending,closed,watched,feeders⟩ := c
  cases opened
  cases pending with
  | none => rfl
  | some f =>
    by_cases closes : f.closes = true
    · simp [produce, flushPending, waiting, drain, closes]
    · cases drained : drain queue (b.receive f.delivery) with
      | mk found rest =>
        cases found <;> simp [produce, flushPending, waiting, drain, closes, drained]

/-- What the channel delivers when it is asked: the waiting feeds up to an end, and an early end when
nobody is left to send one. -/
def deliveries (c : Channel) : List Delivery :=
  if c.closed then c.pending.toList.map Feed.delivery
  else
    (through c.waiting).map Feed.delivery ++
      if c.waiting.any Feed.closes || c.feeders ≠ 0 then [] else [.failed .earlyEof]

theorem produce_buffer (c : Channel) (b : Buffer) :
    (c.produce b).2 = c.deliveries.foldl Buffer.receive b := by
  cases closed : c.closed with
  | true =>
    unfold produce deliveries flushPending
    cases pending : c.pending <;> simp [closed]
  | false =>
    have ends := drain_fst c.waiting b
    have drained := drain_buffer c.waiting b
    simp only [produce_of_open closed, deliveries, closed, Bool.false_eq_true, if_false,
      List.foldl_append, ← drained, ← ends]
    split
    next found => simp [found]
    next found =>
      by_cases gone : c.feeders = 0
      · simp [found, gone, Buffer.receive]
      · simp [found, gone]

end Channel

namespace Source

variable {E : Type} [ExternalSources E]

def deliveries (s : Source) (e : E) : List Delivery :=
  match s with
  | .memory content => [.bytes (content.getD []), .finished]
  | .channel c => c.deliveries
  | .external key => (ExternalSources.produce key e).1

theorem produce_buffer (s : Source) (b : Buffer) (e : E) :
    (s.produce b e).2.1 = (s.deliveries e).foldl Buffer.receive b := by
  cases s with
  | memory content => rfl
  | channel c => exact c.produce_buffer b
  | external key => rfl

end Source

namespace Input

structure SameHearing (before after : Input) : Prop where
  pacing : after.pacing = before.pacing
  listener : after.listener = before.listener
  failureTold : after.failureTold = before.failureTold
  endTold : after.endTold = before.endTold

namespace SameHearing

theorem refl (i : Input) : SameHearing i i := ⟨rfl,rfl,rfl,rfl⟩

theorem trans {a b c : Input} (first : SameHearing a b) (second : SameHearing b c) : SameHearing a c :=
  ⟨second.pacing.trans first.pacing,second.listener.trans first.listener,
    second.failureTold.trans first.failureTold,second.endTold.trans first.endTold⟩

end SameHearing

structure SameCourse (before after : Input) : Prop extends SameHearing before after where
  failure : after.failure = before.failure
  consumed : after.consumed = before.consumed

namespace SameCourse

theorem refl (i : Input) : SameCourse i i := ⟨.refl i,rfl,rfl⟩

theorem trans {a b c : Input} (first : SameCourse a b) (second : SameCourse b c) : SameCourse a c :=
  ⟨first.toSameHearing.trans second.toSameHearing,second.failure.trans first.failure,
    second.consumed.trans first.consumed⟩

end SameCourse

theorem feed_course (i : Input) (id : ChannelId) (f : Feed) :
    SameCourse i (i.feed id f).2 ∧ (i.feed id f).2.buffer = i.buffer := by
  unfold feed
  split
  · split
    · exact ⟨⟨⟨rfl,rfl,rfl,rfl⟩,rfl,rfl⟩,rfl⟩
    · exact ⟨.refl i,rfl⟩
  · exact ⟨.refl i,rfl⟩

theorem changeChannel_course (i : Input) (id : ChannelId) (f : Channel → Channel) :
    SameCourse i (i.changeChannel id f) ∧ (i.changeChannel id f).buffer = i.buffer := by
  unfold changeChannel
  split
  · split
    · exact ⟨⟨⟨rfl,rfl,rfl,rfl⟩,rfl,rfl⟩,rfl⟩
    · exact ⟨.refl i,rfl⟩
  · exact ⟨.refl i,rfl⟩

theorem setListener_of_async {i : Input} (async : i.pacing = .async) (l : ListenerKey) :
    i.setListener l = .error (.illegalState "ReadListener already set") := by
  simp [setListener, async]

section Sources
variable {E : Type} [ExternalSources E]

/-- What a request for content delivers now. Without a source the body has ended. -/
def incoming (s : Input × E) : List Delivery :=
  if s.1.settled then []
  else
    match s.1.source with
    | none => [.finished]
    | some source => source.deliveries s.2

theorem requestMore_buffer (s : Input × E) :
    (requestMore s).1.buffer = (incoming s).foldl Buffer.receive s.1.buffer := by
  obtain ⟨i,e⟩ := s
  unfold requestMore incoming
  dsimp only
  split
  · rfl
  · cases i.source with
    | none => rfl
    | some source => exact source.produce_buffer i.buffer e

theorem requestMore_course (s : Input × E) : SameCourse s.1 (requestMore s).1 := by
  obtain ⟨i,e⟩ := s
  unfold requestMore
  dsimp only
  split
  · exact .refl i
  · cases i.source <;> exact ⟨⟨rfl,rfl,rfl,rfl⟩,rfl,rfl⟩

theorem watch_course (s : Input × E) :
    SameCourse s.1 (watch s).1 ∧ (watch s).1.buffer = s.1.buffer := by
  obtain ⟨i,e⟩ := s
  unfold watch
  dsimp only
  cases i.source <;> exact ⟨⟨⟨rfl,rfl,rfl,rfl⟩,rfl,rfl⟩,rfl⟩

theorem incoming_of_settled {s : Input × E} (settled : s.1.settled = true) : incoming s = [] :=
  if_pos settled

theorem requestMore_of_settled {s : Input × E} (settled : s.1.settled = true) : requestMore s = s := by
  obtain ⟨i,e⟩ := s
  exact if_pos settled

theorem settled_of_failure {i : Input} (failed : i.failure.isSome) : i.settled = true := by
  simp [settled, failed]

theorem unsettled {i : Input} (h : ¬i.settled = true) :
    i.failure = none ∧ i.buffer.finished = false ∧ i.buffer.bytes = [] := by
  simp only [settled, Bool.or_eq_true, Buffer.hasContent_iff] at h
  obtain ⟨⟨empty,goesOn⟩,unfailed⟩ := by simpa only [not_or] using h
  exact ⟨by simpa using unfailed,by simpa using goesOn,Classical.not_not.mp empty⟩

theorem settleWithin_course (n : Nat) (s : Input × E) :
    SameCourse s.1 (settleWithin n s).2.1 := by
  induction n generalizing s with
  | zero => exact .refl s.1
  | succ n ih =>
    have asked := requestMore_course s
    unfold settleWithin
    split
    next i e more =>
      rw [more] at asked
      dsimp only at asked
      split
      · exact asked
      · split
        · exact asked
        · split
          · exact asked.trans ⟨⟨rfl,rfl,rfl,rfl⟩,rfl,rfl⟩
          next source e waited =>
            have same : SameCourse i { i with source := some source } := ⟨⟨rfl,rfl,rfl,rfl⟩,rfl,rfl⟩
            have later := ih ({ i with source := some source }, e)
            exact (asked.trans same).trans later

/-- An input that is driven by readiness asks once, and refuses to be read if that brought neither
bytes nor an end. -/
theorem prepare_of_async {s : Input × E} (async : s.1.pacing = .async) :
    prepare s = (.ok (),requestMore s) ∧
        ((requestMore s).1.buffer.bytes = [] → (requestMore s).1.buffer.finished = true) ∨
      prepare s = (.error (.illegalState "read while not ready"),requestMore s) ∧
        (requestMore s).1.buffer.bytes = [] ∧ (requestMore s).1.buffer.finished = false := by
  unfold prepare
  rw [async]
  dsimp only
  split
  next ready =>
    refine .inl ⟨rfl,?_⟩
    intro empty
    simpa [(Buffer.hasContent_eq_false_iff _).mpr empty] using ready
  next unready =>
    simp only [Bool.or_eq_true, not_or, Bool.not_eq_true, Buffer.hasContent_eq_false_iff] at unready
    exact .inr ⟨rfl,unready⟩

theorem prepare_course (s : Input × E) : SameCourse s.1 (prepare s).2.1 := by
  cases pacing : s.1.pacing with
  | async =>
    rcases prepare_of_async pacing with ⟨ready,-⟩ | ⟨refused,-⟩
    · rw [ready]
      exact requestMore_course s
    · rw [refused]
      exact requestMore_course s
  | blocking =>
    unfold prepare
    rw [pacing]
    exact settleWithin_course _ s

theorem read_hearing (n : Nat) (s : Input × E) : SameHearing s.1 (read n s).2.1 := by
  have buffered (i : Input) : SameHearing i (readBuffered n i).2 := by
    unfold readBuffered
    split
    · exact ⟨rfl,rfl,rfl,rfl⟩
    · split <;> exact ⟨rfl,rfl,rfl,rfl⟩
  unfold read
  split
  · exact .refl s.1
  · split
    · exact .refl s.1
    · have course := (prepare_course s).toSameHearing
      split
      next f t refused =>
        rw [refused] at course
        exact course
      next i e ready =>
        rw [ready] at course
        exact course.trans (buffered i)

theorem isReady_course (s : Input × E) : SameCourse s.1 (isReady s).2.1 := by
  unfold isReady
  split
  · exact .refl s.1
  · dsimp only
    split
    · exact requestMore_course s
    · exact (requestMore_course s).trans (watch_course _).1

theorem requestMore_bytes (s : Input × E) :
    (requestMore s).1.buffer.bytes = s.1.buffer.bytes ++ Delivery.bytesOf (incoming s) := by
  rw [requestMore_buffer, Buffer.bytes_receive]
  by_cases settled : s.1.settled = true
  · simp [incoming_of_settled settled, Delivery.bytesOf]
  · simp [(unsettled settled).2.1]

end Sources

end Input

end HttpRequest.Body
