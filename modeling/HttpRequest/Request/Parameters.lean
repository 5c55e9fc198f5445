import HttpRequest.Param.Form
import HttpRequest.Request.Body

/-! # Parameters of a request

The query is decoded when its parameters are first asked for. The body is decoded at most once in the
life of a request, and only if it is a form sent with a method that allows it, in no content encoding,
and not being read in another way. The merged view has the query's values before those of the body.
-/
namespace HttpRequest.Request

def formType : String := "application/x-www-form-urlencoded"

/-- The parameters of a query; whatever is wrong with it, the failure is the same. -/
def decodeQuery (query : Option String) (charset : Charset) : Except Failure Params :=
  match query with
  | none => .ok .empty
  | some query =>
    match Form.decodeQuery query charset with
    | .ok t => .ok (.ofTable t)
    | .error _ => .error (.badRequest "Bad query encoding")

def badForm : Failure :=
  .badRequest "Unable to parse form content"

def hasForm (r : Request) : Bool :=
  (r.contentType?.filter (· ≠ "")).any (ContentType.mediaType · == formType) &&
    r.contentLength? ≠ some 0 && r.body.mode = .idle &&
    r.settings.isFormMethod (r.method.getD "")

def hasContentEncoding (r : Request) : Bool :=
  (r.header? "content-encoding").any fun encoding => !sameIgnoringCase (trimText encoding) "identity"

/-- The encoding of a form, UTF-8 unless the request names one. -/
def formCharset (r : Request) : Except Failure Charset :=
  match r.encoding? with
  | some name => Charset.named name
  | none => .ok .utf8

section Operations

variable {E : Type} [Body.ExternalSources E]

/-- Reads a body to its end unless it has more than `limit` bytes; at most `n` pieces are read, and
those read before are given in reverse with their total size. -/
def readFormPieces (limit : Nat) :
    Nat → List Octets → Nat → Body.Input × E → Except Failure Octets × (Body.Input × E)
  | 0, _, _, s => (.error badForm, s)
  | n + 1, pieces, size, s =>
    match Body.Input.read Body.Input.pieceSize s with
    | (.error f, s) => (.error f, s)
    | (.ok [], s) => (.ok pieces.reverse.flatten, s)
    | (.ok piece, s) =>
      if limit < size + piece.length then (.error badForm, s)
      else readFormPieces limit n (piece :: pieces) (size + piece.length) s

def readForm (limit : Nat) : Attempt (Body.Input × E) Octets :=
  readFormPieces limit (limit + 2) [] 0

def extractForm : Attempt (Request × E) Params := do
  let r ← current
  if r.contentLength?.any (r.settings.maxFormSize < ·) then
    throw badForm
  let charset ← r.formCharset
  openStream
  if (← current).body.pacing = .async then
    throw badForm
  let bytes ← onBody (readForm r.settings.maxFormSize)
  match Form.decodeBody bytes charset r.settings.maxFormKeys with
  | .ok t => return .ofTable t
  | .error _ => throw badForm

def extractBody : Attempt (Request × E) Params := do
  let r ← current
  if !r.hasForm then
    return .empty
  if r.hasContentEncoding then
    throw (.badMessage 501 "Unsupported Content-Encoding")
  extractForm

def changeParams (f : ParamCache → ParamCache) : Attempt (Request × E) Unit :=
  .change fun (r, e) => ({ r with params := f r.params }, e)

/-- The parameters of the query, decoded now unless they were before. -/
def queryParams : Attempt (Request × E) Params := do
  let r ← current
  match r.params.query with
  | some p => return p
  | none =>
    let p ← decodeQuery r.queryString? r.queryEncoding
    changeParams fun c => { c with query := some p }
    return p

/-- The parameters of the body. It is looked at once; if that failed there are none. -/
def bodyParams : Attempt (Request × E) Params := do
  let r ← current
  if r.params.bodyTried then
    return r.params.body.getD .empty
  changeParams ParamCache.markBodyTried
  let p ← extractBody
  changeParams (·.withBody p)
  return p

/-- The merged view, computed now unless it was before. -/
def allParams : Attempt (Request × E) Params := do
  if (← current).params.merged.isNone then
    let _ ← queryParams
    let _ ← bodyParams
  let (p, c) := (← current).params.materialize
  changeParams fun _ => c
  return p

end Operations

end HttpRequest.Request
