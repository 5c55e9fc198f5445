import HttpRequest.Attempt
import HttpRequest.Body.Signal
import HttpRequest.Body.Source
import HttpRequest.Text.Decoder

/-! # Body input

The input of a request hands the body to the application, either as bytes or as characters, and
either blocking or driven by readiness. The way is chosen once and kept. The first failure sticks:
every later read reports it, and the bytes still queued are not handed out. Failures announced by
the source come after the bytes queued before them.

An operation acts on the input and on the environment of its source together.
-/
namespace HttpRequest.Body

inductive Mode where
  | idle
  | stream
  | reader
deriving DecidableEq, Repr

inductive Pacing where
  | blocking
  | async
deriving DecidableEq, Repr

structure ListenerKey where
  number : Nat
deriving DecidableEq, Repr, Inhabited

/-- A source was asked to let the client go on: what was at hand then, and how many bytes were given out
before. -/
structure Interim where
  source : Source
  buffer : Buffer
  consumed : Nat
deriving DecidableEq, Repr

structure Input where
  source : Option Source := none
  buffer : Buffer := .empty
  mode : Mode := .idle
  pacing : Pacing := .blocking
  listener : Option ListenerKey := none
  signal : Signal := .idle
  /-- The sources outside that keep the signal. -/
  watchers : List SourceKey := []
  /-- How long a blocking read waits, in milliseconds. -/
  timeout : Nat := 30000
  consumed : Nat := 0
  expectsContinue : Bool := false
  /-- A record of the calls that let the client go on, in order. Nothing depends on it. -/
  interims : List Interim := []
  failure : Option Failure := none
  failureTold : Bool := false
  endTold : Bool := false
  decoder : Decoder := {}
deriving DecidableEq, Repr

namespace Input

def new (timeout : Nat) : Input :=
  { timeout }

instance : Inhabited Input := ⟨new 30000⟩

def attach (i : Input) (source : Source) (expectsContinue : Bool) : Input :=
  { i with source := some source, expectsContinue }

def recycle (i : Input) : Input :=
  new i.timeout

def settled (i : Input) : Bool :=
  i.buffer.hasContent || i.buffer.finished || i.failure.isSome

def isFinished (i : Input) : Bool :=
  i.buffer.finished && !i.buffer.hasContent

def enterStream (i : Input) : Except Failure Input :=
  match i.mode with
  | .idle => .ok { i with mode := .stream }
  | .stream => .ok i
  | .reader => .error (.illegalState "READER")

def enterReader (i : Input) (charset : Charset) : Except Failure Input :=
  match i.mode with
  | .idle => .ok { i with mode := .reader, decoder := { i.decoder with charset } }
  | .reader => .ok i
  | .stream => .error (.illegalState "STREAMED")

/-- Ends the input with a failure, unless it has failed already. Queued bytes are dropped, and the
signal is raised so that the listener learns of it. -/
def fail (i : Input) (f : Failure) : Bool × Input :=
  match i.failure with
  | some _ => (false, i)
  | none => (true, { i with buffer := i.buffer.clear, failure := some f, signal := .raised })

def setListener (i : Input) (l : ListenerKey) : Except Failure Input :=
  if i.listener.isSome || i.pacing == .async then
    .error (.illegalState "ReadListener already set")
  else if 0 < i.consumed then
    .error (.illegalState "ReadListener set after blocking read")
  else .ok { i with pacing := .async, listener := some l, signal := .raised }

/-- A source outside raises the signal, if it keeps the one that is in use. -/
def raiseFrom (i : Input) (key : SourceKey) : Input :=
  { i with signal := i.signal.raiseIf (i.watchers.contains key) }

def changeChannel (i : Input) (id : ChannelId) (f : Channel → Channel) : Input :=
  match i.source with
  | some (.channel c) => if c.id = id then { i with source := some (.channel (f c)) } else i
  | _ => i

def addFeeder (i : Input) (id : ChannelId) : Input :=
  i.changeChannel id fun c => { c with feeders := c.feeders + 1 }

def dropFeeder (i : Input) (id : ChannelId) : Input :=
  i.changeChannel id fun c => { c with feeders := c.feeders - 1 }

def channelGone : Failure :=
  .illegalState "content transport is gone"

/-- A feeder sends a feed through its channel, and answers a watch with the signal. -/
def feed (i : Input) (id : ChannelId) (f : Feed) : Except Failure Unit × Input :=
  match i.source with
  | some (.channel c) =>
    if c.id = id then
      let (watched, c) := c.feed f
      (.ok (), { i with source := some (.channel c), signal := i.signal.raiseIf watched })
    else (.error channelGone, i)
  | _ => (.error channelGone, i)

section Operations

variable {E : Type} [ExternalSources E]

/-- Lets the client go on, once and only while it has sent nothing. -/
def sendContinue (s : Input × E) : Except Failure Unit × (Input × E) :=
  let (i, e) := s
  if !i.expectsContinue then (.ok (), i, e)
  else
    let i := { i with expectsContinue := false }
    if i.buffer.hasContent then (.ok (), i, e)
    else
      match i.source with
      | none => (.ok (), i, e)
      | some source =>
        let i := { i with interims := i.interims ++ [⟨source, i.buffer, i.consumed⟩] }
        let (r, e) := source.sendContinue e
        (r, i, e)

/-- Asks the source for content without waiting, unless there is some or the body has ended. -/
def requestMore (s : Input × E) : Input × E :=
  let (i, e) := s
  if i.settled then (i, e)
  else
    match i.source with
    | none => ({ i with buffer := i.buffer.finish }, e)
    | some source =>
      let (source, buffer, e) := source.produce i.buffer e
      ({ i with source := some source, buffer }, e)

/-- Asks and waits in turn until something has come, at most `n` times. -/
def settleWithin : Nat → Input × E → Except Failure Unit × (Input × E)
  | 0, s => (.error .timeout, s)
  | n + 1, s =>
    let (i, e) := requestMore s
    if i.settled then (.ok (), i, e)
    else
      match i.source with
      | none => (.ok (), i, e)
      | some source =>
        match source.wait i.timeout e with
        | (.timedOut, source, e) => (.error .timeout, { i with source := some source }, e)
        | (.readable, source, e) => settleWithin n ({ i with source := some source }, e)

def settle (s : Input × E) : Except Failure Unit × (Input × E) :=
  settleWithin (s.1.source.elim 0 (·.patience s.2) + 1) s

/-- Arms the signal and asks the source to raise it. -/
def watch (s : Input × E) : Input × E :=
  let (i, e) := s
  let i := { i with signal := i.signal.arm }
  match i.source with
  | none => (i, e)
  | some source =>
    let (ready, source, e) := source.watch e
    let watchers := match source.key? with
      | some key => key :: i.watchers
      | none => i.watchers
    ({ i with source := some source, watchers, signal := i.signal.raiseIf ready }, e)

/-- Whether there is something to read. A blocking input always says so; the other kind arms the
signal when it says no. -/
def isReady (s : Input × E) : Bool × (Input × E) :=
  match s.1.pacing with
  | .blocking => (true, s)
  | .async =>
    let s := requestMore s
    if s.1.settled then (true, s) else (false, watch s)

/-- Gets content before a read, by waiting or by refusing to. -/
def prepare (s : Input × E) : Except Failure Unit × (Input × E) :=
  match s.1.pacing with
  | .blocking => settle s
  | .async =>
    let s := requestMore s
    if s.1.buffer.hasContent || s.1.buffer.finished then (.ok (), s)
    else (.error (.illegalState "read while not ready"), s)

/-- Reads from the buffer; once that is empty, the failure of the source or the end. -/
def readBuffered (n : Nat) (i : Input) : Except Failure Octets × Input :=
  if i.buffer.hasContent then
    let (bytes, buffer) := i.buffer.take n
    (.ok bytes, { i with buffer, consumed := i.consumed + bytes.length, expectsContinue := false })
  else
    match i.buffer.failure with
    | some f => (.error f.again, { i with buffer := i.buffer.takeFailure.2, failure := some f })
    | none => (.ok [], i)

/-- Reads at most `n` bytes; no byte means that the body has ended. -/
def read (n : Nat) (s : Input × E) : Except Failure Octets × (Input × E) :=
  match s.1.failure with
  | some f => (.error f.again, s)
  | none =>
    if n = 0 then (.ok [], s)
    else
      match prepare s with
      | (.error f, s) => (.error f, s)
      | (.ok _, i, e) =>
        let (r, i) := readBuffered n i
        (r, i, e)

def pieceSize : Nat := 4096

/-- A bound on the number of pieces until the end of the body. -/
def pieceBound (s : Input × E) : Nat :=
  s.1.buffer.available + s.1.source.elim 0 (·.supply s.2) + 2

def readPieces : Nat → List Octets → Input × E → (Octets × Option Failure) × (Input × E)
  | 0, pieces, s => ((pieces.reverse.flatten, some .timeout), s)
  | n + 1, pieces, s =>
    match read pieceSize s with
    | (.error f, s) => ((pieces.reverse.flatten, some f), s)
    | (.ok [], s) => ((pieces.reverse.flatten, none), s)
    | (.ok piece, s) => readPieces n (piece :: pieces) s

def readRest (s : Input × E) : (Octets × Option Failure) × (Input × E) :=
  readPieces (pieceBound s) [] s

def readReadyPieces (size : Nat) :
    Nat → List Octets → Input × E → (Octets × Option Failure) × (Input × E)
  | 0, pieces, s => ((pieces.reverse.flatten, none), s)
  | n + 1, pieces, s =>
    match isReady s with
    | (false, s) => ((pieces.reverse.flatten, none), s)
    | (true, s) =>
      match read size s with
      | (.error f, s) => ((pieces.reverse.flatten, some f), s)
      | (.ok [], s) => ((pieces.reverse.flatten, none), s)
      | (.ok piece, s) => readReadyPieces size n (piece :: pieces) s

def readReady (size : Nat) (s : Input × E) : (Octets × Option Failure) × (Input × E) :=
  readReadyPieces size (pieceBound s) [] s

def skipRest (s : Input × E) : Except Failure Nat × (Input × E) :=
  match readRest s with
  | ((_, some f), s) => (.error f, s)
  | ((bytes, none), s) => (.ok bytes.length, s)

end Operations

end Input

end HttpRequest.Body
