import HttpRequest.Body.Input

/-! # Reading characters

A body that is read as characters is decoded piece by piece. Every read continues where the last one
stopped, and nothing depends on how the bytes were cut into pieces. A line ends at a newline, and one
carriage return in front of it belongs to the end.
-/
namespace HttpRequest.Body.Input

variable {E : Type} [ExternalSources E]

def requireReader (i : Input) : Except Failure Unit :=
  if i.mode = .reader then .ok () else .error (.illegalState "reader mode not selected")

def asReader {α : Type} (f : Input × E → Except Failure α × (Input × E)) (s : Input × E) :
    Except Failure α × (Input × E) :=
  match s.1.requireReader with
  | .error f => (.error f, s)
  | .ok _ => f s

/-- Decodes another piece; false at the end of the body. -/
def fill (s : Input × E) : Except Failure Bool × (Input × E) :=
  match read pieceSize s with
  | (.error f, s) => (.error f, s)
  | (.ok [], i, e) => (.ok false, { i with decoder := i.decoder.finish }, e)
  | (.ok piece, i, e) => (.ok true, { i with decoder := i.decoder.feed piece }, e)

def takeText (s : Input × E) : String × (Input × E) :=
  let (text, decoder) := s.1.decoder.takeText
  (text, { s.1 with decoder }, s.2)

def readTextWithin : Nat → Input × E → Except Failure (Option String) × (Input × E)
  | 0, s => (.error .timeout, s)
  | n + 1, s =>
    if s.1.decoder.text.isEmpty then
      match fill s with
      | (.error f, s) => (.error f, s)
      | (.ok true, s) => readTextWithin n s
      | (.ok false, s) =>
        if s.1.decoder.text.isEmpty then (.ok none, s)
        else
          let (text, s) := takeText s
          (.ok (some text), s)
    else
      let (text, s) := takeText s
      (.ok (some text), s)

def readText (s : Input × E) : Except Failure (Option String) × (Input × E) :=
  readTextWithin (pieceBound s) s

def readLineWithin : Nat → Input × E → Except Failure (Option String) × (Input × E)
  | 0, s => (.error .timeout, s)
  | n + 1, s =>
    match s.1.decoder.takeLine? with
    | some (line, decoder) => (.ok (some line), { s.1 with decoder }, s.2)
    | none =>
      match fill s with
      | (.error f, s) => (.error f, s)
      | (.ok true, s) => readLineWithin n s
      | (.ok false, s) =>
        let (rest, s) := takeText s
        (.ok (if rest.isEmpty then none else some rest), s)

def readLine (s : Input × E) : Except Failure (Option String) × (Input × E) :=
  readLineWithin (pieceBound s) s

def readAllWithin : Nat → Input × E → Except Failure String × (Input × E)
  | 0, s => (.error .timeout, s)
  | n + 1, s =>
    match fill s with
    | (.error f, s) => (.error f, s)
    | (.ok true, s) => readAllWithin n s
    | (.ok false, s) =>
      let (text, s) := takeText s
      (.ok text, s)

def readAll (s : Input × E) : Except Failure String × (Input × E) :=
  readAllWithin (pieceBound s) s

end HttpRequest.Body.Input
