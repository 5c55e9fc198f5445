/-! # Failures

Why the handling of a request failed. Bad input of the client carries the status to answer with,
misuse of the library is an illegal state, and the rest comes from the transport or from a handler.
Each cause has one status and one text.
-/
namespace HttpRequest

inductive IoKind where
  | timedOut
  | unexpectedEof
  | connectionReset
  | connectionAborted
  | brokenPipe
  | notFound
  | invalidData
  | other
deriving DecidableEq, Repr

structure IoFailure where
  kind : IoKind
  message : String
deriving DecidableEq, Repr

inductive Failure where
  | badMessage (status : Nat) (reason : String)
  | illegalState (message : String)
  | unsupportedEncoding (name : String)
  | timeout
  | earlyEof
  | io (cause : IoFailure)
  /-- The contexts of a handler's failure, outermost first. -/
  | handler (contexts : List String)
  | authenticationFailed (message : String)
deriving DecidableEq, Repr

namespace Failure

def badRequest (reason : String) : Failure :=
  .badMessage 400 reason

def status : Failure → Nat
  | .badMessage status _ => status
  | .earlyEof => 400
  | .timeout => 408
  | .authenticationFailed _ => 401
  | .illegalState _ | .unsupportedEncoding _ | .io _ | .handler _ => 500

def isClientFault (f : Failure) : Bool :=
  400 ≤ f.status && f.status < 500

def message : Failure → String
  | .badMessage status reason => s!"bad message {status}: {reason}"
  | .illegalState message => "illegal state: " ++ message
  | .unsupportedEncoding name => s!"unsupported character encoding '{name}'"
  | .timeout => "timed out waiting for request content"
  | .earlyEof => "early EOF while reading request content"
  | .io cause => "I/O error: " ++ cause.message
  | .handler contexts => "handler failed: " ++ ": ".intercalate contexts
  | .authenticationFailed message => "authentication failed: " ++ message

def cause? : Failure → Option String
  | .io cause => some cause.message
  | .handler contexts => some (contexts.headD "")
  | _ => none

def ofIo (cause : IoFailure) : Failure :=
  match cause.kind with
  | .timedOut => .timeout
  | .unexpectedEof => .earlyEof
  | _ => .io cause

def toIo : Failure → IoFailure
  | .io cause => cause
  | .timeout => ⟨.timedOut, "content read timed out"⟩
  | .earlyEof => ⟨.unexpectedEof, "early EOF"⟩
  | f => ⟨.other, f.message⟩

def toReadFailure : Failure → IoFailure
  | .io cause => cause
  | .timeout => ⟨.timedOut, Failure.timeout.message⟩
  | .earlyEof => ⟨.unexpectedEof, Failure.earlyEof.message⟩
  | f => ⟨.other, f.message⟩

/-- A second report of the same failure: the contexts of a handler's failure become one. -/
def again : Failure → Failure
  | .handler contexts => .handler [": ".intercalate contexts]
  | f => f

theorem status_again (f : Failure) : f.again.status = f.status := by
  cases f <;> rfl

theorem message_again (f : Failure) : f.again.message = f.message := by
  cases f <;> rfl

end Failure

end HttpRequest
