import HttpRequest.Proofs.Body.Reading

/-! # Fidelity of a fed body

Feeders and the reader of one channel take turns in any order, and the feeders go on while a read waits.
What the reads give out is at all times a beginning of the body that was sent; the end and every failure
come behind it, and time is up only when there is nothing to come yet.
-/
namespace HttpRequest.Body

open Channel Input

/-- A fed input, with the feeds that were sent, the feeders that are left, and what was read. -/
structure Exchange (E : Type) where
  input : Input
  env : E
  sent : List Feed
  feeders : Nat
  out : Octets := []

inductive Feeding where
  | send (f : Feed)
  | clone
  | drop

/-- What a feeder or the reader does next. Feeders act in the rounds of a read while it waits. -/
inductive Turn where
  | feeding (f : Feeding)
  | read (n : Nat) (rounds : List (List Feeding))
  | requestMore
  | isReady
  | watch
  | wait (milliseconds : Nat)
  | settle
  | setListener (l : ListenerKey)

namespace Exchange

variable {E : Type}

def start (timeout : Nat) (expectsContinue : Bool) (id : ChannelId) (queue : List Feed)
    (pending : Option Feed) (watched : Bool) (feeders : Nat) (e : E) : Exchange E where
  input := (Input.new timeout).attach (.channel { id, queue, pending, watched, feeders }) expectsContinue
  env := e
  sent := pending.toList ++ queue
  feeders

def feeding (id : ChannelId) (x : Exchange E) (f : Feeding) : Exchange E :=
  if x.feeders = 0 then x
  else
    match f with
    | .send f => { x with input := (x.input.feed id f).2, sent := x.sent ++ [f] }
    | .clone => { x with input := x.input.addFeeder id, feeders := x.feeders + 1 }
    | .drop => { x with input := x.input.dropFeeder id, feeders := x.feeders - 1 }

section Operations
variable [ExternalSources E]

def requestMore (x : Exchange E) : Exchange E :=
  let (input, env) := Input.requestMore (x.input, x.env)
  { x with input, env }

def wait (milliseconds : Nat) (x : Exchange E) : Arrival × Exchange E :=
  match x.input.source with
  | none => (.readable, x)
  | some source =>
    let (arrival, source, env) := source.wait milliseconds x.env
    (arrival, { x with input := { x.input with source := some source }, env })

def readAlone (n : Nat) (x : Exchange E) : Except Failure Octets × Exchange E :=
  let (result, input, env) := Input.read n (x.input, x.env)
  (result, { x with input, env, out := x.out ++ result.toOption.getD [] })

/-- Whether a read has to wait, because it is one that waits and a request for content brings nothing. -/
def waits (n : Nat) (x : Exchange E) : Bool :=
  x.input.failure.isNone && n != 0 && x.input.pacing == .blocking && !x.requestMore.input.settled

/-- Reads. Each time the read has to wait, the feeders of one more round act before the wait ends; once
the rounds are over they rest. -/
def read (id : ChannelId) (n : Nat) :
    List (List Feeding) → Exchange E → Except Failure Octets × Exchange E
  | [], x => x.readAlone n
  | round :: rounds, x =>
    if x.waits n then
      match (round.foldl (feeding id) x.requestMore).wait x.input.timeout with
      | (.timedOut, x) => (.error .timeout, x)
      | (.readable, x) => read id n rounds x
    else x.readAlone n

def step (id : ChannelId) (x : Exchange E) : Turn → Exchange E
  | .feeding f => x.feeding id f
  | .read n rounds => (x.read id n rounds).2
  | .requestMore => x.requestMore
  | .isReady =>
    let (_, input, env) := Input.isReady (x.input, x.env)
    { x with input, env }
  | .watch =>
    let (input, env) := Input.watch (x.input, x.env)
    { x with input, env }
  | .wait milliseconds => (x.wait milliseconds).2
  | .settle =>
    let (_, input, env) := Input.settle (x.input, x.env)
    { x with input, env }
  | .setListener l => { x with input := (x.input.setListener l).toOption.getD x.input }

end Operations

def Faithful (id : ChannelId) (x : Exchange E) : Prop :=
  Reading id x.sent x.feeders x.out x.input

theorem feeding_faithful {id : ChannelId} {x : Exchange E} (h : x.Faithful id) (f : Feeding) :
    (x.feeding id f).Faithful id ∧ (x.feeding id f).input.buffer = x.input.buffer ∧
      (x.feeding id f).out = x.out := by
  unfold feeding
  split
  · exact ⟨h,rfl,rfl⟩
  next present =>
    cases f with
    | send f => exact ⟨h.feed present f,(feed_course x.input id f).2,rfl⟩
    | clone => exact ⟨h.count present (· + 1),(changeChannel_course x.input id _).2,rfl⟩
    | drop => exact ⟨h.count present (· - 1),(changeChannel_course x.input id _).2,rfl⟩

theorem round_faithful {id : ChannelId} {x : Exchange E} (h : x.Faithful id) (round : List Feeding) :
    (round.foldl (feeding id) x).Faithful id ∧
      (round.foldl (feeding id) x).input.buffer = x.input.buffer ∧
      (round.foldl (feeding id) x).out = x.out := by
  induction round generalizing x with
  | nil => exact ⟨h,rfl,rfl⟩
  | cons f round ih =>
    obtain ⟨fed,sameBuffer,sameOut⟩ := feeding_faithful h f
    obtain ⟨last,buffer,out⟩ := ih fed
    exact ⟨last,buffer.trans sameBuffer,out.trans sameOut⟩

variable [ExternalSources E]

theorem wait_faithful {id : ChannelId} {x : Exchange E} (h : x.Faithful id) (milliseconds : Nat) :
    (x.wait milliseconds).2.Faithful id ∧ (x.wait milliseconds).2.out = x.out ∧
      ((x.wait milliseconds).1 = .timedOut → x.input.buffer.bytes = [] →
        Quiet (x.wait milliseconds).2.sent (x.wait milliseconds).2.feeders x.out) := by
  unfold wait
  split
  · exact ⟨h,rfl,fun timedOut => by cases timedOut⟩
  next source reads =>
    obtain ⟨reading,quiet⟩ := h.wait reads milliseconds x.env
    exact ⟨reading,rfl,quiet⟩

theorem readAlone_faithful {id : ChannelId} {x : Exchange E} (h : x.Faithful id) (n : Nat) :
    (x.readAlone n).2.Faithful id ∧
      (n ≠ 0 → Answered (x.readAlone n).2.sent (x.readAlone n).2.feeders x.out (x.readAlone n).1) := by
  cases n with
  | zero => exact ⟨h.read_zero x.env,fun nonzero => absurd rfl nonzero⟩
  | succ n => exact ⟨(h.read n x.env).1,fun _ => (h.read n x.env).2⟩

theorem read_faithful {id : ChannelId} {x : Exchange E} (h : x.Faithful id) (n : Nat)
    (rounds : List (List Feeding)) :
    (x.read id n rounds).2.Faithful id ∧
      (n ≠ 0 → Answered (x.read id n rounds).2.sent (x.read id n rounds).2.feeders x.out
        (x.read id n rounds).1) := by
  induction rounds generalizing x with
  | nil => exact readAlone_faithful h n
  | cons round rounds ih =>
    unfold read
    split
    next waiting =>
      have asked : x.requestMore.Faithful id := (h.request x.env).1
      have empty : x.requestMore.input.buffer.bytes = [] := by
        refine (unsettled ?_).2.2
        simp only [waits, Bool.and_eq_true, Bool.not_eq_true'] at waiting
        simp [waiting.2]
      -- the wait begins with an empty buffer, and what feeders do leaves it empty
      obtain ⟨fed,buffer,out⟩ := round_faithful asked round
      obtain ⟨waited,same,quiet⟩ := wait_faithful fed x.input.timeout
      rw [buffer] at quiet
      have given : (round.foldl (feeding id) x.requestMore).out = x.out := out
      rw [given] at quiet same
      generalize (round.foldl (feeding id) x.requestMore).wait x.input.timeout = y at waited same quiet
      obtain ⟨arrival,y⟩ := y
      cases arrival with
      | timedOut => exact ⟨waited,fun _ => quiet rfl empty⟩
      | readable =>
        have later := ih (x := y) waited
        rw [show y.out = x.out from same] at later
        exact later
    · exact readAlone_faithful h n

theorem step_faithful {id : ChannelId} {x : Exchange E} (h : x.Faithful id) (turn : Turn) :
    (x.step id turn).Faithful id := by
  cases turn with
  | feeding f => exact (feeding_faithful h f).1
  | read n rounds => exact (read_faithful h n rounds).1
  | requestMore => exact (h.request x.env).1
  | isReady => exact h.isReady x.env
  | watch => exact h.watch x.env
  | wait milliseconds => exact (wait_faithful h milliseconds).1
  | settle => exact (h.settleWithin _ x.env).1
  | setListener l =>
    have set : Reading id x.sent x.feeders x.out ((x.input.setListener l).toOption.getD x.input) := by
      unfold Input.setListener
      split
      · exact h
      · split
        · exact h
        · exact h.congr rfl rfl rfl rfl
    exact set

theorem run_faithful {id : ChannelId} {x : Exchange E} (h : x.Faithful id) (turns : List Turn) :
    (turns.foldl (step id) x).Faithful id := by
  induction turns generalizing x with
  | nil => exact h
  | cons turn rest ih => exact ih (step_faithful h turn)

/-- After any turns of the feeders and the reader, what was read is a beginning of the body that was
sent, it has been counted, and the next read answers truly: no byte only behind a body that was
finished, a failure only behind all of the body, and a timeout only when there is nothing to come yet. -/
theorem reads_faithful (timeout : Nat) (expectsContinue : Bool) (id : ChannelId) (queue : List Feed)
    (pending : Option Feed) (watched : Bool) (feeders : Nat) (e : E) (turns : List Turn) :
    let x := turns.foldl (step id) (start timeout expectsContinue id queue pending watched feeders e)
    x.out <+: bodyOf x.sent ∧ x.input.consumed = x.out.length ∧
      ∀ n rounds, Answered (x.read id (n + 1) rounds).2.sent (x.read id (n + 1) rounds).2.feeders
        x.out (x.read id (n + 1) rounds).1 := by
  intro x
  have fresh : Reading id (pending.toList ++ queue) feeders []
      ((Input.new timeout).attach (.channel { id, queue, pending, watched, feeders }) expectsContinue) :=
    ⟨⟨_,[],rfl,rfl,rfl,⟨rfl,rfl,.going rfl rfl rfl⟩⟩,rfl⟩
  have reading : x.Faithful id :=
    run_faithful (x := start timeout expectsContinue id queue pending watched feeders e) fresh turns
  obtain ⟨c,moved,-,-,-,conveyed⟩ := reading.channel
  exact ⟨conveyed.out_prefix,reading.consumed,
    fun n rounds => (read_faithful reading (n + 1) rounds).2 n.succ_ne_zero⟩

end Exchange

end HttpRequest.Body
