import HttpRequest.Body.Input

/-! # The wire of an input

From outside, a source is known by a handle: feeders know a channel by its identity, and a source
outside is known by its key. An input that is used keeps its source, and it asks no other for a signal.
So an input on which a handle has no hold stays such an input, and to such an input nothing happens
when somebody feeds, joins or leaves that channel or raises the signal with that key.
-/
namespace HttpRequest.Body

/-- By what a source is known outside. -/
inductive Handle where
  | channel (id : ChannelId)
  | external (key : SourceKey)
deriving DecidableEq, Repr

def Source.handle? : Source → Option Handle
  | .memory _ => none
  | .channel c => some (.channel c.id)
  | .external key => some (.external key)

namespace Channel

theorem pull_id (c : Channel) : c.pull.2.id = c.id := by
  unfold pull
  split
  · rfl
  · split <;> rfl

theorem produce_id (c : Channel) (b : Buffer) : (c.produce b).1.id = c.id := by
  have flushed : (c.flushPending b).1.id = c.id := by
    unfold flushPending
    split <;> rfl
  unfold produce
  dsimp only
  split
  · exact flushed
  · split
    · exact flushed
    · split <;> exact flushed

end Channel

namespace Source
variable {E : Type} [ExternalSources E]

theorem produce_handle? (s : Source) (b : Buffer) (e : E) : (s.produce b e).1.handle? = s.handle? := by
  cases s with
  | memory content => rfl
  | channel c => exact congrArg (some ∘ Handle.channel) (c.produce_id b)
  | external key => rfl

theorem wait_handle? (s : Source) (milliseconds : Nat) (e : E) : (s.wait milliseconds e).2.1.handle? = s.handle? := by
  cases s with
  | memory content => rfl
  | channel c =>
    have same := congrArg (some ∘ Handle.channel) c.pull_id
    unfold wait
    dsimp only
    split
    next pulled => rw [pulled] at same; exact same
    next pulled => rw [pulled] at same; exact same
  | external key => rfl

theorem watch_handle? (s : Source) (e : E) : (s.watch e).2.1.handle? = s.handle? := by
  cases s with
  | memory content => rfl
  | channel c => exact congrArg (some ∘ Handle.channel) c.pull_id
  | external key => rfl

end Source

namespace Input

def handle? (i : Input) : Option Handle :=
  i.source.bind Source.handle?

/-- The input reads the same source, and has asked nobody else for a signal. -/
structure SameWire (before after : Input) : Prop where
  handle : after.handle? = before.handle?
  watchers : ∀ key ∈ after.watchers, key ∈ before.watchers ∨ before.handle? = some (.external key)

namespace SameWire

theorem refl (i : Input) : SameWire i i := ⟨rfl,fun _ => .inl⟩

theorem trans {a b c : Input} (first : SameWire a b) (second : SameWire b c) : SameWire a c := by
  refine ⟨second.handle.trans first.handle,?_⟩
  intro key asked
  rcases second.watchers key asked with before | own
  · exact first.watchers key before
  · exact .inr (first.handle ▸ own)

theorem of_same {i j : Input} (source : j.source = i.source) (watchers : j.watchers = i.watchers) : SameWire i j :=
  ⟨congrArg (·.bind Source.handle?) source,fun _ asked => .inl (watchers ▸ asked)⟩

theorem of_source {i j : Input} {source other : Source} (reads : i.source = some source)
    (now : j.source = some other) (same : other.handle? = source.handle?) (watchers : j.watchers = i.watchers) :
    SameWire i j :=
  ⟨by simp only [handle?, reads, now, Option.bind_some, same],fun _ asked => .inl (watchers ▸ asked)⟩

end SameWire

theorem watch_wire {E : Type} [ExternalSources E] (s : Input × E) : SameWire s.1 (watch s).1 := by
  obtain ⟨i,e⟩ := s
  unfold watch
  dsimp only
  split
  · exact .of_same rfl rfl
  next source reads =>
    have handle := source.watch_handle? e
    refine ⟨by simp only [handle?, reads, Option.bind_some, handle],?_⟩
    intro key asked
    dsimp only at asked
    split at asked
    next own external =>
      rcases List.mem_cons.mp asked with rfl | before
      · right
        rw [handle?, reads, Option.bind_some, ← handle]
        cases held : (source.watch e).2.1 with
        | memory content => rw [held] at external; cases external
        | channel c => rw [held] at external; cases external
        | external other => rw [held] at external; cases external; rfl
      · exact .inl before
    · exact .inl asked

end Input

/-- What is done from outside by whoever holds a handle. -/
inductive OutsideAct where
  | feed (id : ChannelId) (f : Feed)
  | addFeeder (id : ChannelId)
  | dropFeeder (id : ChannelId)
  | raise (key : SourceKey)

namespace OutsideAct

def handle : OutsideAct → Handle
  | feed id _ | addFeeder id | dropFeeder id => .channel id
  | raise key => .external key

def apply : OutsideAct → Input → Input
  | feed id f, i => (i.feed id f).2
  | addFeeder id, i => i.addFeeder id
  | dropFeeder id, i => i.dropFeeder id
  | raise key, i => i.raiseFrom key

end OutsideAct

/-- None of the handles has a hold on the input. -/
structure Input.Apart (strange : Handle → Prop) (i : Input) : Prop where
  source : ∀ h ∈ i.handle?, ¬strange h
  watchers : ∀ key ∈ i.watchers, ¬strange (.external key)

namespace Input

variable {strange : Handle → Prop}

theorem apart_new (timeout : Nat) : (new timeout).Apart strange :=
  ⟨by simp [new, handle?],by simp [new]⟩

theorem SameWire.apart {i j : Input} (same : SameWire i j) (apart : i.Apart strange) : j.Apart strange := by
  refine ⟨by rw [same.handle]; exact apart.source,?_⟩
  intro key asked
  rcases same.watchers key asked with before | own
  · exact apart.watchers key before
  · exact apart.source _ own

theorem feed_of_other {i : Input} {id : ChannelId} (other : ∀ c, i.source = some (.channel c) → c.id ≠ id)
    (f : Feed) : (i.feed id f).2 = i := by
  unfold Input.feed
  split
  next c reads => rw [if_neg (other c reads)]
  · rfl

theorem changeChannel_of_other {i : Input} {id : ChannelId} (other : ∀ c, i.source = some (.channel c) → c.id ≠ id)
    (f : Channel → Channel) : i.changeChannel id f = i := by
  unfold changeChannel
  split
  next c reads => rw [if_neg (other c reads)]
  · rfl

theorem Apart.unmoved {i : Input} (apart : i.Apart strange) {act : OutsideAct} (outside : strange act.handle) :
    act.apply i = i := by
  have others {id : ChannelId} (outside : strange (.channel id)) :
      ∀ c, i.source = some (.channel c) → c.id ≠ id := by
    rintro c reads rfl
    exact apart.source _ (by simp [handle?, reads, Source.handle?]) outside
  cases act with
  | feed id f => exact feed_of_other (others outside) f
  | addFeeder id => exact changeChannel_of_other (others outside) _
  | dropFeeder id => exact changeChannel_of_other (others outside) _
  | raise key =>
    have unwatched : key ∉ i.watchers := fun asked => apart.watchers key asked outside
    show { i with signal := i.signal.raiseIf (i.watchers.contains key) } = i
    rw [List.contains_eq_mem, decide_eq_false unwatched]
    rfl

end Input

end HttpRequest.Body
