import HttpRequest.Body.Input

/-! # Readiness-driven delivery

Whoever drives a body calls `onReadPossible` when its signal was raised. The listener is told of data,
then once of the end or of a failure. While a callback runs the listener is detached from the input,
so the callback may use the input freely; afterwards it is attached again, unless another one was set
in the meantime.
-/
namespace HttpRequest.Body

/-- What the listeners of bodies do when they are told. -/
structure Callbacks (E : Type) where
  /-- There are bytes to read. -/
  onData : ListenerKey → Attempt (Input × E) Unit
  /-- Every byte has been read. -/
  onEnd : ListenerKey → Attempt (Input × E) Unit
  /-- The read failed, or a callback did. -/
  onFailure : ListenerKey → Failure → E → E

namespace Input

variable {E : Type} [ExternalSources E] (cb : Callbacks E)

/-- Gets content and tells the listener of it. A failure of the callback counts only if the input had
not failed before. -/
def tellData (l : ListenerKey) (s : Input × E) : Input × E :=
  if s.1.failure.isSome then s
  else
    let s := requestMore s
    if s.1.buffer.hasContent then
      match (cb.onData l).exec s with
      | (.ok _, s) => s
      | (.error f, i, e) => ({ i with failure := i.failure.or (some f) }, e)
    else s

/-- The failure of the source counts once the bytes before it have been read. -/
def surfaceFailure (i : Input) : Input :=
  if i.failure.isNone && !i.buffer.hasContent then
    { i with failure := i.buffer.failure, buffer := i.buffer.takeFailure.2 }
  else i

def tellFailure (l : ListenerKey) (f : Failure) (s : Input × E) : Bool × (Input × E) :=
  if s.1.failureTold then (false, s)
  else (true, { s.1 with failureTold := true }, cb.onFailure l f s.2)

/-- Tells the listener of the end, once. If that fails, the listener is told of its own failure. -/
def tellEnd (l : ListenerKey) (s : Input × E) : Input × E :=
  if s.1.endTold then s
  else
    match (cb.onEnd l).exec ({ s.1 with endTold := true }, s.2) with
    | (.ok _, s) => s
    | (.error f, i, e) =>
      ({ i with failureTold := true, failure := some f }, cb.onFailure l f e)

/-- Tells the listener what there is to tell; the result says whether there was anything. -/
def deliver (l : ListenerKey) (s : Input × E) : Bool × (Input × E) :=
  let s := tellData cb l s
  let s := (s.1.surfaceFailure, s.2)
  match s.1.failure with
  | some f => tellFailure cb l f s
  | none =>
    if s.1.isFinished then (true, tellEnd cb l s)
    else if s.1.buffer.hasContent then (true, s)
    else (true, watch s)

/-- Lowers the signal and lets the listener, if there is one, do what is due. -/
def onReadPossible (s : Input × E) : Bool × (Input × E) :=
  let i := { s.1 with signal := .idle }
  match i.listener with
  | none => (false, i, s.2)
  | some l =>
    let (told, i, e) := deliver cb l ({ i with listener := none }, s.2)
    (told, { i with listener := i.listener.or (some l) }, e)

end Input

end HttpRequest.Body
