import HttpRequest.Body.Reader
import HttpRequest.Request.Basic

/-! # The body of a request

The application reads the body as bytes or as characters. The encoding of characters is that of the
request or the one of the settings, and it is fixed when the reader is first asked for.
-/
namespace HttpRequest.Request

/-- The encoding of the body from now on. Once the body is being read nothing changes, and an unknown
name is refused. -/
def withEncoding (r : Request) (name : String) : Except Failure Request :=
  if r.body.mode ≠ .idle then .ok r
  else (Charset.named name).map fun _ => { r with encodingOverride := some name }

section Operations

variable {E : Type}

def onBody {α : Type} (a : Attempt (Body.Input × E) α) : Attempt (Request × E) α :=
  fun (r, e) =>
    match a.exec (r.body, e) with
    | (result, body, e) => (result, { r with body }, e)

def current : Attempt (Request × E) Request := do
  return (← get).1

def chooseBody (choice : Body.Input → Except Failure Body.Input) : Attempt (Request × E) Unit := do
  let body ← choice (← current).body
  modify fun (r, e) => ({ r with body }, e)

variable [Body.ExternalSources E]

def openStream : Attempt (Request × E) Unit := do
  chooseBody Body.Input.enterStream
  onBody (.of Body.Input.sendContinue)

/-- The encoding of a reader: that of the request, else that of the settings. -/
def readerCharset (r : Request) : Except Failure Charset :=
  Charset.named (r.encoding?.getD r.settings.readerCharset)

def openReader : Attempt (Request × E) Unit := do
  let r ← current
  if r.body.mode = .idle then
    let charset ← r.readerCharset
    chooseBody (·.enterReader charset)
    onBody (.of Body.Input.sendContinue)
  else
    chooseBody (·.enterReader .utf8)

end Operations

end HttpRequest.Request
