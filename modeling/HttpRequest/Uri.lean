import HttpRequest.Path

/-! # Request addresses

The address of a request keeps the parts that a dispatch rewrites, path and query, apart from those
it never touches, scheme, host and port. Path and query are kept as sent, escapes included. What targets
and authorities are accepted, and into what parts they fall, is left to a grammar.
-/
namespace HttpRequest

structure Uri where
  scheme : Option String := none
  host : Option String := none
  port : Option Nat := none
  path : String := ""
  query : Option String := none
deriving DecidableEq, Repr, Inhabited

/-- A grammar of the addresses in requests. -/
class UriGrammar where
  /-- The parts of a target, if it is accepted. -/
  target? : String → Option Uri
  /-- Host and port of an authority such as `example.com:8080`, if it is accepted. -/
  authority? : String → Option (String × Option Nat)

namespace Uri

def parse [UriGrammar] (target : String) : Except Failure Uri :=
  match UriGrammar.target? target with
  | none => .error badUri
  | some u => .ok u

def ofPathQuery (target : String) : Uri :=
  let (path, query) := Path.splitQuery target
  { path, query }

def withAuthority [UriGrammar] (u : Uri) (authority : String) : Except Failure Uri :=
  match UriGrammar.authority? authority with
  | none => .error badUri
  | some (host, port) => .ok { u with host := some host, port }

def withScheme (u : Uri) (scheme : String) : Uri :=
  { u with scheme := some scheme }

/-- A new query, where an empty one counts as absent. -/
def withQuery (u : Uri) (query : Option String) : Uri :=
  { u with query := query.filter (· ≠ "") }

def withPathQuery (u : Uri) (path : String) (query : Option String) : Uri :=
  { u with path := path }.withQuery query

def pathQuery (u : Uri) : String :=
  match u.query with
  | some query => u.path ++ "?" ++ query
  | none => u.path

def decodedPath (u : Uri) : Except Failure String :=
  Path.decode u.path

/-- The address in full; scheme and port appear only with a host. -/
def text (u : Uri) : String :=
  let origin := match u.host with
    | some host =>
      u.scheme.getD "http" ++ "://" ++ host ++ (u.port.elim "" fun port => ":" ++ toString port)
    | none => ""
  origin ++ u.pathQuery

end Uri

end HttpRequest
