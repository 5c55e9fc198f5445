import HttpRequest.Number.Binary
import HttpRequest.Settings

/-! # Log settings and sampling

How log events are written and which of them are kept. Warnings and errors are always kept. When
sampling, spans are kept too, and of the other events every k-th one, where k is the reciprocal of the
rate without its fraction.
-/
namespace HttpRequest.Logging

open Number (Binary)

inductive Format where
  | json
  | pretty
deriving DecidableEq, Repr

def Format.ofText (text : String) : Format :=
  if sameIgnoringCase text "pretty" then .pretty else .json

inductive Sampling where
  | all
  | errorsOnly
  | sampled
deriving DecidableEq, Repr

def Sampling.ofText (text : String) : Sampling :=
  if sameIgnoringCase text "error-only" || sameIgnoringCase text "error_only" then .errorsOnly
  else if sameIgnoringCase text "sampled" then .sampled
  else .all

def fullRate : Binary :=
  .finite false (Nat.pow 2 52) (-52)

structure Config where
  level : String := "info"
  format : Format := .json
  sampling : Sampling := .all
  rate : Binary := fullRate
  async : Bool := false
  targetFilter : Option String := none
  includeLocation : Bool := false
deriving Repr

namespace Config

def development : Config :=
  { level := "debug", format := .pretty, includeLocation := true }

def flag? : String → Option Bool
  | "true" => some true
  | "false" => some false
  | _ => none

def ofVariables (vars : Variables) : Config :=
  let get (name : String) := vars.lookup name
  let flag (name : String) : Bool := ((get name).bind flag?).getD false
  { level := (get "REQSCOPE_LOG_LEVEL").getD "info"
    format := ((get "REQSCOPE_LOG_FORMAT").map Format.ofText).getD .json
    sampling := ((get "REQSCOPE_LOG_SAMPLING_MODE").map Sampling.ofText).getD .all
    rate := ((get "REQSCOPE_LOG_SAMPLING_RATE").bind fun r => Number.double.read? r.toList).getD fullRate
    async := flag "REQSCOPE_LOG_ASYNC"
    targetFilter := get "REQSCOPE_LOG_TARGET_FILTER"
    includeLocation := flag "REQSCOPE_LOG_INCLUDE_LOCATION" }

def refusal (c : Config) : String :=
  "Failed to initialize " ++ (if c.async then "async" else "sync") ++ " logging"

end Config

inductive Level where
  | trace
  | debug
  | info
  | warn
  | error
deriving DecidableEq, Repr

/-- What the sampler is asked about: an event of some level or a span. -/
structure Record where
  level : Level
  isSpan : Bool := false
deriving DecidableEq, Repr

/-- Decides which records are kept, and counts those it had to choose among. -/
structure Sampler where
  mode : Sampling
  rate : Binary
  count : Nat := 0
deriving Repr

namespace Sampler

def clamp : Binary → Binary
  | .undefined negative => .undefined negative
  | .infinite negative => if negative then .finite false 0 0 else fullRate
  | .finite negative s p =>
    let (n, d) := Number.scaled s p
    if negative && s != 0 then .finite false 0 0
    else if d < n then fullRate
    else .finite negative s p

def new (mode : Sampling) (rate : Binary) : Sampler :=
  { mode, rate := clamp rate }

/-- The reciprocal of the rate without its fraction, at most the largest number of 64 bits. -/
def interval : Binary → Nat
  | .finite false s p =>
    if s = 0 then Number.max64
    else
      let (n, d) := Number.scaled s p
      match Number.double.round false d n with
      | .finite _ s p =>
        let (n, d) := Number.scaled s p
        min (n / d) Number.max64
      | _ => Number.max64
  | _ => 0

def isZero : Binary → Bool
  | .finite _ s _ => s == 0
  | _ => false

def keeps (s : Sampler) (r : Record) : Bool × Sampler :=
  let important := r.level == .warn || r.level == .error
  match s.mode with
  | .all => (true, s)
  | .errorsOnly => (important, s)
  | .sampled =>
    if important || r.isSpan then (true, s)
    else if isZero s.rate then (false, s)
    else
      let k := interval s.rate
      (0 < k && s.count % k == 0, { s with count := s.count + 1 })

def decisions : Sampler → List Record → List Bool
  | _, [] => []
  | s, r :: rest =>
    let (kept, s) := s.keeps r
    kept :: decisions s rest

end Sampler

end HttpRequest.Logging
