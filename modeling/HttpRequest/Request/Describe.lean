import HttpRequest.Dispatch.Target
import HttpRequest.Text.Quoted

/-! # Requests described

Short descriptions for logs and traces: of a body, of the sessions, of a dispatch target and of a whole
request. They name the state without its contents.
-/
namespace HttpRequest

open Quoted

namespace Body

def Mode.describe : Mode → String
  | .idle => "Idle"
  | .stream => "Stream"
  | .reader => "Reader"

def Pacing.describe : Pacing → String
  | .blocking => "Blocking"
  | .async => "Async"

def Input.describe (i : Input) : String :=
  record "ContentInput"
    [("mode", i.mode.describe), ("production", i.pacing.describe),
      ("available", toString i.buffer.available), ("consumed", toString i.consumed),
      ("eof", toString i.buffer.finished), ("failed", toString i.failure.isSome)]

end Body

def Sessions.describe {E : Type} [SessionStores E] (s : Sessions) (e : E) : String :=
  record "SessionScope"
    [("entered", toString s.entered.length),
      ("current", optional (fun key => quote (SessionStores.sessionId key e)) s.current),
      ("manager", optional (fun key => quote (SessionStores.managerName key e)) s.manager)]

def Uri.describe (u : Uri) : String :=
  record "HttpUri"
    [("scheme", optional quote u.scheme), ("host", optional quote u.host),
      ("port", optional toString u.port), ("path", quote u.path), ("query", optional quote u.query)]

def DispatchTarget.describe : DispatchTarget → String
  | .path uri context _ =>
    record "Dispatcher" [("uri", quote uri.text), ("context_path", quote context)]
  | .named name => record "Dispatcher" [("name", quote name)]

def DispatchKind.describe : DispatchKind → String
  | .request => "Request"
  | .forward => "Forward"
  | .include => "Include"
  | .error => "Error"
  | .async => "Async"

def Request.describe (r : Request) (id : RequestId) : String :=
  record "RequestContext"
    [("request_id", "RequestId(Ulid(" ++ toString id.value ++ "))"), ("method", optional (·) r.method),
      ("uri", optional Uri.describe r.uri), ("dispatch_kind", r.kind.describe),
      ("overlays", toString r.attributes.depth), ("content", r.body.describe)]

end HttpRequest
