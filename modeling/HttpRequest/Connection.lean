import HttpRequest.Request.Lifecycle
import HttpRequest.Request.Metadata

/-! # Connections

A connection serves one request after another with the same request value. However a request ends, and
also when its request line is refused, it is completed and made ready for the next one.
-/
namespace HttpRequest

structure Connection where
  request : Request
  /-- How many requests were begun. -/
  served : Nat := 0

structure Arriving where
  method : String
  target : String
  version : Version := .http11
  headers : Headers := {}
  source : Body.Source

namespace Connection

def new (settings : Settings) : Connection :=
  { request := Request.new settings }

instance : Inhabited Connection := ⟨new {}⟩

def withEnds (c : Connection) (remote localEnd : Option Endpoint) : Connection :=
  { c with request := { c.request with remote, localEnd } }

section Operations

variable {E : Type} [Body.ExternalSources E] [SessionStores E]

def finish (s : Connection × E) : Connection × E :=
  let (c, e) := s
  let (request, e) := Request.recycle (Request.complete (c.request, e))
  ({ c with request }, e)

/-- Begins a request. One that is refused is finished at once. -/
def begin [UriGrammar] (a : Arriving) (s : Connection × E) : Except Failure Unit × (Connection × E) :=
  let (c, e) := s
  let c := { c with served := c.served + 1 }
  match c.request.withMetadata a.method a.target a.version a.headers with
  | .error f => (.error f, finish (c, e))
  | .ok r => (.ok (), { c with request := r.withSource a.source }, e)

/-- Begins a request, lets a handler work on it, and finishes it however the handler ends. -/
def serve [UriGrammar] {α : Type} (a : Arriving) (handler : Request × E → Outcome α × (Request × E))
    (s : Connection × E) : Outcome α × (Connection × E) :=
  match begin a s with
  | (.error f, s) => (.failed f, s)
  | (.ok _, c, e) =>
    let (outcome, request, e) := handler (c.request, e)
    (outcome, finish ({ c with request }, e))

end Operations

end Connection

end HttpRequest
