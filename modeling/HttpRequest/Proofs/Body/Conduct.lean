import HttpRequest.Body.Notify
import HttpRequest.Proofs.Body.Arrival

/-! # Conduct around an input

The application, the callbacks of a listener and whoever feeds the source act on an input one step
after another, each step depending on all that happened before. So conduct is a finite tree, and a step
that polls the input carries what the callbacks do if they are called. Beside the run an account is
kept from the moment at which a listener is set: which bytes the buffer accepted, which of them were
read, and what the listener was told.
-/
namespace HttpRequest.Body

/-- The bytes that the buffer accepted, those that reads gave out, and whether the input was made to
fail, by hand or by the failure of a callback, before the source failed it. -/
structure Tally where
  accepted : Octets
  given : Octets := []
  broken : Bool := false
deriving DecidableEq

/-- Every accepted byte was given out, unless the input was broken before. -/
def Tally.Spent (t : Tally) : Prop :=
  t.broken = true ∨ t.given = t.accepted

/-- What a listener is told, and how things stand at that time. -/
inductive Told where
  | data (unread : Octets)
  | ended (failure : Option Failure) (tally : Tally)
  | failed (f : Failure) (tally : Tally)
deriving DecidableEq

namespace Told

inductive Kind where
  | data
  | ended
  | failed
deriving DecidableEq, Repr

def kind : Told → Kind
  | data _ => .data
  | ended _ _ => .ended
  | failed _ _ => .failed

/-- Data is told only with unread bytes at hand, the end only of an input that has not failed and
whose bytes have all been read, and a failure only behind the bytes. -/
def Proper : Told → Prop
  | data unread => unread ≠ []
  | ended failure tally => failure = none ∧ tally.given = tally.accepted
  | failed _ tally => tally.Spent

end Told

/-- The account of an input with a listener: what the listener was told, and how things stood whenever
a read failed. -/
structure Account extends Tally where
  told : List Told := []
  refused : List (Failure × Tally) := []
deriving DecidableEq

namespace Account

def accept (a : Account) (bytes : Octets) : Account :=
  { a with accepted := a.accepted ++ bytes }

def settle (a : Account) : Except Failure Octets → Account
  | .ok bytes => { a with given := a.given ++ bytes }
  | .error f => { a with refused := a.refused ++ [(f, a.toTally)] }

def spoil (a : Account) : Account :=
  { a with broken := true }

def tell (a : Account) (t : Told) : Account :=
  { a with told := a.told ++ [t] }

/-- The listener was told of data any number of times, then at most once of the end and at most once of
a failure, each properly; and no read failed with bytes left behind. -/
structure Orderly (a : Account) : Prop where
  word : ∃ (k : Nat) (ended failed : Bool), a.told.map Told.kind =
    List.replicate k .data ++ (if ended then [.ended] else []) ++ (if failed then [.failed] else [])
  proper : ∀ t ∈ a.told, t.Proper
  refused : ∀ r ∈ a.refused, r.2.Spent

end Account

/-- An environment with an account beside it, once one is kept. -/
structure Audited (E : Type) where
  env : E
  account : Option Account := none

namespace Audited

variable {E : Type}

def note (e : Audited E) (f : Account → Account) : Audited E :=
  { e with account := e.account.map f }

instance [ExternalSources E] : ExternalSources (Audited E) where
  produce key e :=
    ((ExternalSources.produce key e.env).1, { e with env := (ExternalSources.produce key e.env).2 })
  wait key milliseconds e :=
    ((ExternalSources.wait key milliseconds e.env).1,
      { e with env := (ExternalSources.wait key milliseconds e.env).2 })
  watch key e :=
    ((ExternalSources.watch key e.env).1, { e with env := (ExternalSources.watch key e.env).2 })
  sendContinue key e :=
    ((ExternalSources.sendContinue key e.env).1,
      { e with env := (ExternalSources.sendContinue key e.env).2 })
  patience key e := ExternalSources.patience key e.env
  supply key e := ExternalSources.supply key e.env

end Audited

/-- One step on an input, or on its source from outside. -/
inductive Act (E : Type) where
  | read (n : Nat)
  | isReady
  | requestMore
  | watch
  | fail (f : Failure)
  | setListener (l : ListenerKey)
  | feed (id : ChannelId) (f : Feed)
  | addFeeder (id : ChannelId)
  | dropFeeder (id : ChannelId)
  | raiseFrom (key : SourceKey)
  | useEnvironment (change : E → E)

def plain {E : Type} (s : Input × Audited E) : Input × E :=
  (s.1, s.2.env)

section Run
variable {E : Type} [ExternalSources E]

def acceptIncoming (s : Input × Audited E) : Input × Audited E :=
  (s.1, s.2.note (·.accept (Delivery.bytesOf (Input.incoming s))))

/-- Does a step and accounts for it. The account begins when a listener is set, with the bytes that are
buffered then. -/
def Act.run (act : Act E) (s : Input × Audited E) : Input × Audited E :=
  match act with
  | read n =>
    let (result, i, e) := Input.read n (if n = 0 then s else acceptIncoming s)
    (i, e.note (·.settle result))
  | isReady => (Input.isReady (acceptIncoming s)).2
  | requestMore => Input.requestMore (acceptIncoming s)
  | watch => Input.watch s
  | fail f => ((s.1.fail f).2, if (s.1.fail f).1 then s.2.note (·.spoil) else s.2)
  | setListener l =>
    match s.1.setListener l with
    | .ok i => (i, { s.2 with account := some { accepted := s.1.buffer.bytes } })
    | .error _ => s
  | feed id f => ((s.1.feed id f).2, s.2)
  | addFeeder id => (s.1.addFeeder id, s.2)
  | dropFeeder id => (s.1.dropFeeder id, s.2)
  | raiseFrom key => (s.1.raiseFrom key, s.2)
  | useEnvironment change => (s.1, { s.2 with env := change s.2.env })

abbrev Reaction (E : Type) :=
  ListenerKey → Input × Audited E → Except Failure Unit × (Input × Audited E)

/-- Callbacks whose calls are put on the account. -/
def auditing (onData onEnd : Reaction E) (onFailure : ListenerKey → Failure → E → E) :
    Callbacks (Audited E) where
  onData l := .of fun s =>
    let (result, i, e) := onData l (s.1, s.2.note (·.tell (.data s.1.buffer.bytes)))
    (result, i, if !result.toBool && i.failure.isNone then e.note (·.spoil) else e)
  onEnd l := .of fun s =>
    let (result, i, e) := onEnd l (s.1, s.2.note fun a => a.tell (.ended s.1.failure a.toTally))
    (result, i, if result.toBool then e else e.note (·.spoil))
  onFailure l f e :=
    let e := e.note fun a => a.tell (.failed f a.toTally)
    { e with env := onFailure l f e.env }

end Run

/-- What happens around an input, each step chosen by what happened before; the states before and after
a step are in view. The callbacks of a poll find the input in the state in which they are called, and
may do whatever others may. -/
inductive Conduct (E : Type) where
  | finish (result : Except Failure Unit)
  | act (act : Act E) (next : (before after : Input × E) → Conduct E)
  | poll (onData onEnd : ListenerKey → Input × E → Conduct E)
      (onFailure : ListenerKey → Failure → E → E) (next : (before after : Input × E) → Conduct E)

def Conduct.run {E : Type} [ExternalSources E] :
    Conduct E → Input × Audited E → Except Failure Unit × (Input × Audited E)
  | finish result, s => (result, s)
  | act step next, s => (next (plain s) (plain (step.run s))).run (step.run s)
  | poll onData onEnd onFailure next, s =>
    let callbacks := auditing (fun l s => (onData l (plain s)).run s)
      (fun l s => (onEnd l (plain s)).run s) onFailure
    let polled := (Input.onReadPossible callbacks
      (if s.1.listener.isSome then acceptIncoming s else s)).2
    (next (plain s) (plain polled)).run polled

end HttpRequest.Body
