import HttpRequest.Body.Buffer

/-! # Fed channels

A channel carries the body from feeders to the one source that reads it. Feeds wait in a queue; one
of them may already have been pulled out by a wait. Whoever reads the channel may leave a watch, which
the next feed consumes and answers with a signal. When the last feeder goes without ending the body,
the reader finds an early end after the queued feeds.
-/
namespace HttpRequest.Body

structure ChannelId where
  number : Nat
deriving DecidableEq, Repr, Inhabited

inductive Feed where
  | chunk (bytes : Octets)
  | finish
  | abort (reason : String)
deriving DecidableEq, Repr

namespace Feed

def delivery : Feed → Delivery
  | .chunk bytes => .bytes bytes
  | .finish => .finished
  | .abort reason => .failed (.io ⟨.connectionAborted, reason⟩)

def closes : Feed → Bool
  | .chunk _ => false
  | .finish | .abort _ => true

end Feed

/-- A channel as its reader holds it. -/
structure Channel where
  id : ChannelId
  queue : List Feed := []
  pending : Option Feed := none
  closed : Bool := false
  watched : Bool := false
  feeders : Nat := 1
deriving DecidableEq, Repr

namespace Channel

/-- Moves feeds into a buffer, up to one that closes the channel: whether there was one, the feeds
behind it, and the buffer. -/
def drain : List Feed → Buffer → Bool × List Feed × Buffer
  | [], b => (false, [], b)
  | f :: rest, b =>
    if f.closes then (true, rest, b.receive f.delivery) else drain rest (b.receive f.delivery)

def flushPending (c : Channel) (b : Buffer) : Channel × Buffer :=
  match c.pending with
  | some f => ({ c with pending := none, closed := c.closed || f.closes }, b.receive f.delivery)
  | none => (c, b)

/-- Moves all feeds into a buffer; without feeders a channel that nobody closed ends early. -/
def produce (c : Channel) (b : Buffer) : Channel × Buffer :=
  let (c, b) := c.flushPending b
  if c.closed then (c, b)
  else
    match drain c.queue b with
    | (true, queue, b) => ({ c with queue, closed := true }, b)
    | (false, _, b) =>
      if c.feeders = 0 then ({ c with queue := [], closed := true }, b.fail .earlyEof)
      else ({ c with queue := [] }, b)

/-- Pulls a feed out if none is. The result tells whether there is something to read: a feed, or an
end that was seen or will be. -/
def pull (c : Channel) : Bool × Channel :=
  if c.pending.isSome || c.closed then (true, c)
  else
    match c.queue with
    | f :: rest => (true, { c with queue := rest, pending := some f })
    | [] => (c.feeders = 0, c)

def watch (c : Channel) : Bool × Channel :=
  let (ready, c) := c.pull
  (ready, { c with watched := !ready })

def feed (c : Channel) (f : Feed) : Bool × Channel :=
  (c.watched, { c with queue := c.queue ++ [f], watched := false })

def size (c : Channel) : Nat :=
  (c.pending.toList ++ c.queue).foldl (fun size f =>
    match f with
    | .chunk bytes => size + bytes.length
    | _ => size) 0

end Channel

end HttpRequest.Body
