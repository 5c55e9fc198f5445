import HttpRequest.Report.Value

/-! # Reports of requests

The report of a body input tells how far it has been read. A request has two reports: where it is, which
a nested dispatch changes, and everything else about it, which needs the environment for its sessions.
-/
namespace HttpRequest

namespace Body

instance : Reportable Signal where
  report
    | .idle => report "idle"
    | .armed => report "armed"
    | .raised => report "ready"

instance : Reportable Input where
  report i := .object [("mode", report (lowerAscii i.mode.describe)),
    ("production", report (lowerAscii i.pacing.describe)), ("available", report i.buffer.available),
    ("consumed", report i.consumed), ("finished", report i.isFinished),
    ("failure", report (i.failure.map Failure.kindName)),
    ("expect_continue", report i.expectsContinue), ("readiness", report i.signal),
    ("transport", report i.source.isSome)]

end Body

section

variable {E : Type} [SessionStores E] (e : E)

def sessionIdOf (key : Option SessionKey) : Option String :=
  key.map fun key => SessionStores.sessionId key e

def managerNameOf (key : Option ManagerKey) : Option String :=
  key.map fun key => SessionStores.managerName key e

def Sessions.fields (s : Sessions) : List (String × Json) :=
  [("entered", report s.entered.length), ("current", report (sessionIdOf e s.current)),
    ("manager", report (managerNameOf e s.manager))]

end

namespace Request

def placeFields (r : Request) : List (String × Json) :=
  [("uri", report (r.uri.map (·.text))), ("original_uri", report r.arrivedUri),
    ("request_uri", report r.requestUri?), ("query", report r.queryString?),
    ("context_path", report r.contextPath), ("handler_path", report r.handlerPath),
    ("path_info", report r.pathInfo), ("mapping", report r.mapping), ("kind", report r.kind.name),
    ("attribute_names", report r.attributes.names), ("depth", report r.attributes.depth)]

def messageFields (r : Request) : List (String × Json) :=
  [("method", report r.method), ("version", report r.version.text), ("secure", report r.secure),
    ("scheme", report r.scheme), ("server_name", report r.serverName?),
    ("server_port", report r.serverPort), ("root_url", report r.rootUrl?),
    ("request_url", report r.requestUrl?), ("has_timestamp", report r.received),
    ("remote_addr", report r.remoteEnd?), ("remote_port", report (portOf r.remoteEnd?)),
    ("local_addr", report r.localEnd), ("local_port", report (portOf r.localEnd)),
    ("handled", report r.handled), ("header_count", report r.headers.fields.length)]

def bodyFields (r : Request) : List (String × Json) :=
  [("content_type", report r.contentType?), ("content_length", report r.contentLength?),
    ("character_encoding", report r.encoding?), ("query_encoding", report r.queryEncoding),
    ("content_read", report r.body.consumed), ("content", report r.body)]

def useFields {E : Type} [SessionStores E] (r : Request) (e : E) : List (String × Json) :=
  let requested := r.requestedSession
  let user := r.authentication.user?
  [("requested_session_id", report (requested.map (·.id))),
    ("requested_from_cookie", report (requested.any (·.fromCookie))),
    ("requested_from_url", report (requested.any (!·.fromCookie))),
    ("requested_valid", report (r.requestedSessionIsValid e)),
    ("session_manager", report (managerNameOf e r.sessions.manager)),
    ("sessions_entered", report r.sessions.entered.length),
    ("current_session", report (sessionIdOf e r.sessions.current)),
    ("authentication", report r.authentication), ("remote_user", report (user.map (·.name))),
    ("auth_type", report (user.map (·.scheme))), ("async_supported", report r.asyncSupported),
    ("async_started", report r.asyncStarted), ("response_committed", report r.committed)]

def fullReport {E : Type} [SessionStores E] (r : Request) (e : E) : Json :=
  .object (r.placeFields ++ r.messageFields ++ r.bodyFields ++ r.useFields e)

end Request

end HttpRequest
