import HttpRequest.Param.Merge

/-! # Parameters computed so far

A request computes its query parameters, its body parameters and the merged view when they are first
asked for. The body is looked at only once, whether or not it gave parameters. A new query set makes
the merged view stale, so whoever changes the query drops that view.
-/
namespace HttpRequest

/-- What has been computed: query, body and merged view, and whether the body has been looked at. -/
structure ParamCache where
  query : Option Params := none
  body : Option Params := none
  merged : Option Params := none
  bodyTried : Bool := false
deriving Inhabited

namespace ParamCache

/-- Records the parameters of the body, which is never looked at again. -/
def withBody (c : ParamCache) (p : Params) : ParamCache :=
  { c with body := some p, bodyTried := true }

def markBodyTried (c : ParamCache) : ParamCache :=
  { c with bodyTried := true }

def combined (c : ParamCache) : Params :=
  (c.query.getD .empty).merge (c.body.getD .empty)

def materialize (c : ParamCache) : Params × ParamCache :=
  match c.merged with
  | some p => (p, c)
  | none => (c.combined, { c with merged := some c.combined })

def dropMerged (c : ParamCache) : ParamCache :=
  { c with merged := none }

def restoreQuery (c : ParamCache) (query : Option Params) : ParamCache :=
  { c with query, merged := none }

end ParamCache

end HttpRequest
