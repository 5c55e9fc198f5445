import HttpRequest.Attempt
import HttpRequest.Json
import HttpRequest.Text.Utf8

/-! # Reports

A report is the structured value by which a value is shown to tools: absent values are null, lists and
pairs are lists, and bytes are pairs of hexadecimal digits. A result is an object whose field `ok` holds
the value, and a failure names its kind, its text and its status.
-/
namespace HttpRequest

class Reportable (α : Type) where
  report : α → Json

export Reportable (report)

def hexText (bs : Octets) : String :=
  let digit (b : UInt8) : Char := Json.hexDigit b.toNat
  bs.foldl (fun s b => (s.push (digit (b / 16))).push (digit (b % 16))) ""

instance : Reportable Json := ⟨id⟩
instance : Reportable Unit := ⟨fun _ => .null⟩
instance : Reportable Bool := ⟨.bool⟩
instance : Reportable Nat := ⟨fun n => .number n⟩
instance : Reportable Int := ⟨.number⟩
instance : Reportable String := ⟨.text⟩
instance : Reportable Octets := ⟨fun bs => .text (hexText bs)⟩

section

variable {α β : Type} [Reportable α] [Reportable β]

instance : Reportable (Option α) := ⟨fun a => a.elim .null report⟩
instance : Reportable (List α) := ⟨fun xs => .list (xs.map report)⟩
instance : Reportable (α × β) := ⟨fun (a, b) => .list [report a, report b]⟩

end

def Failure.kindName : Failure → String
  | .badMessage .. => "BadMessage"
  | .illegalState _ => "IllegalState"
  | .unsupportedEncoding _ => "UnsupportedEncoding"
  | .timeout => "Timeout"
  | .earlyEof => "EarlyEof"
  | .io _ => "Io"
  | .handler _ => "Handler"
  | .authenticationFailed _ => "AuthenticationFailed"

instance : Reportable Failure where
  report f := .object [("error", report f.kindName), ("message", report f.message),
    ("status", report f.status)]

namespace IoKind

def all : List IoKind :=
  [.timedOut, .unexpectedEof, .connectionReset, .connectionAborted, .brokenPipe, .notFound,
    .invalidData, .other]

def name : IoKind → String
  | .timedOut => "TimedOut"
  | .unexpectedEof => "UnexpectedEof"
  | .connectionReset => "ConnectionReset"
  | .connectionAborted => "ConnectionAborted"
  | .brokenPipe => "BrokenPipe"
  | .notFound => "NotFound"
  | .invalidData => "InvalidData"
  | .other => "Other"

/-- The kind of a name; what has no name of its own is other. -/
def ofName (name : String) : IoKind :=
  (all.find? (·.name == name)).getD .other

theorem ofName_name (k : IoKind) : ofName k.name = k := by
  cases k <;> rfl

end IoKind

instance : Reportable IoFailure where
  report f := .object [("error", report "io"), ("io_kind", report f.kind.name),
    ("message", report f.message)]

def reportOk {α : Type} [Reportable α] (a : α) : Json :=
  .object [("ok", report a)]

instance {α : Type} [Reportable α] : Reportable (Except Failure α) where
  report
    | .ok a => reportOk a
    | .error f => report f

instance : Reportable (Outcome Unit) where
  report
    | .ok _ => reportOk ()
    | .failed f => report f
    | .panicked message => .object [("panic", report message)]

end HttpRequest
