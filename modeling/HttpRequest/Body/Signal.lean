/-! # Readiness signals

The input of a body and its source share a signal. The input arms it when it runs dry, the source
raises it when there is something to read, and whoever drives the input lowers it before delivery.
-/
namespace HttpRequest.Body

inductive Signal where
  | idle
  | armed
  | raised
deriving DecidableEq, Repr, Inhabited

namespace Signal

def arm : Signal → Signal
  | .idle => .armed
  | s => s

def raiseIf (s : Signal) (wake : Bool) : Signal :=
  if wake then .raised else s

end Signal

end HttpRequest.Body
