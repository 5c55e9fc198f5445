import HttpRequest.Failure

/-! # The response seen from a dispatch

A dispatch tells the response when an include begins and ends, resets it before a forward, and closes
its output after one. All else about the response is the business of its environment.
-/
namespace HttpRequest

inductive OutputMode where
  | none
  | stream
  | writer
deriving DecidableEq, Repr, Inhabited

/-- The response that an environment holds. -/
class ResponseControl (E : Type) where
  markIncluding : E → E
  markIncluded : E → E
  /-- Drops what has not been sent; not possible once something has. -/
  resetForForward : E → Except Failure Unit × E
  isOutputClosed : E → Bool
  outputMode : E → OutputMode
  closeOutput : E → Except Failure Unit × E
  closeWriter : E → Except Failure Unit × E

namespace ResponseControl

variable {E : Type} [ResponseControl E]

def close (e : E) : Except Failure Unit × E :=
  match outputMode e with
  | .writer => closeWriter e
  | .stream | .none => closeOutput e

end ResponseControl

end HttpRequest
