import HttpRequest.Body.Channel

/-! # Sources of a body

A body comes from memory, from a fed channel, or from a source outside of this library. A source can
be asked to produce more content, to wait until there is some, to signal when there is some, and to
let the client know that it may go on. Sources outside live in an environment, which each of their
operations may change.
-/
namespace HttpRequest.Body

structure SourceKey where
  number : Nat
deriving DecidableEq, Repr, Inhabited

inductive Arrival where
  | readable
  | timedOut
deriving DecidableEq, Repr

/-- The sources that an environment holds. Both bounds are for loops that run as long as a source
keeps them going. -/
class ExternalSources (E : Type) where
  produce : SourceKey → E → List Delivery × E
  wait : SourceKey → Nat → E → Arrival × E
  /-- Keeps the signal; the result tells whether to raise it at once. -/
  watch : SourceKey → E → Bool × E
  sendContinue : SourceKey → E → Except Failure Unit × E
  /-- How many more waits may end without content. -/
  patience : SourceKey → E → Nat
  /-- How many more bytes may be delivered. -/
  supply : SourceKey → E → Nat

inductive Source where
  | memory (content : Option Octets)
  | channel (c : Channel)
  | external (key : SourceKey)
deriving DecidableEq, Repr

namespace Source

variable {E : Type} [ExternalSources E]

def produce (s : Source) (b : Buffer) (e : E) : Source × Buffer × E :=
  match s with
  | .memory content => (.memory none, (b.push (content.getD [])).finish, e)
  | .channel c =>
    let (c, b) := c.produce b
    (.channel c, b, e)
  | .external key =>
    let (deliveries, e) := ExternalSources.produce key e
    (.external key, deliveries.foldl Buffer.receive b, e)

/-- Waits until there is something to read. A body in memory never waits, and on a channel that
holds nothing a wait lasts until its time is up. -/
def wait (s : Source) (milliseconds : Nat) (e : E) : Arrival × Source × E :=
  match s with
  | .memory content => (.readable, .memory content, e)
  | .channel c =>
    match c.pull with
    | (true, c) => (.readable, .channel c, e)
    | (false, c) => (.timedOut, .channel c, e)
  | .external key =>
    let (arrival, e) := ExternalSources.wait key milliseconds e
    (arrival, .external key, e)

def watch (s : Source) (e : E) : Bool × Source × E :=
  match s with
  | .memory content => (true, .memory content, e)
  | .channel c =>
    let (ready, c) := c.watch
    (ready, .channel c, e)
  | .external key =>
    let (ready, e) := ExternalSources.watch key e
    (ready, .external key, e)

def sendContinue (s : Source) (e : E) : Except Failure Unit × E :=
  match s with
  | .external key => ExternalSources.sendContinue key e
  | _ => (.ok (), e)

def patience (s : Source) (e : E) : Nat :=
  match s with
  | .external key => ExternalSources.patience key e
  | _ => 1

def supply (s : Source) (e : E) : Nat :=
  match s with
  | .memory content => (content.getD []).length
  | .channel c => c.size
  | .external key => ExternalSources.supply key e

/-- The source outside that keeps the signal after a watch. -/
def key? : Source → Option SourceKey
  | .external key => some key
  | _ => none

end Source

end HttpRequest.Body
