import HttpRequest.Param.Table

/-! # Parameter sets and their merge

A computed parameter set is empty or a table. Merging puts, for every name, all values of the first
set before those of the second. When one side is empty the other is taken as it is. On a forward the
target's values come first, on an include the previous ones.
-/
namespace HttpRequest

inductive Params where
  | empty
  | table (t : ParamTable)
deriving Inhabited

namespace Params

def ofTable (t : ParamTable) : Params :=
  if t.isEmpty then .empty else .table t

def table? : Params → Option ParamTable
  | .empty => none
  | .table t => some t

def isEmpty : Params → Bool
  | .empty => true
  | .table t => t.isEmpty

def values (p : Params) (name : String) : List String :=
  match p with
  | .empty => []
  | .table t => t.values name

def value? (p : Params) (name : String) : Option String :=
  match p with
  | .empty => none
  | .table t => t.value? name

def names : Params → List String
  | .empty => []
  | .table t => t.names

def size : Params → Nat
  | .empty => 0
  | .table t => t.size

/-- All values of `first`, then all values of `second`, name by name. -/
def merge : (first second : Params) → Params
  | .empty, second => second
  | first, .empty => first
  | .table a, .table b => ofTable (a.append b)

/-- On a forward the target's values come first. -/
def mergeForward (target previous : Params) : Params :=
  merge target previous

/-- On an include the previous values come first. -/
def mergeInclude (previous target : Params) : Params :=
  merge previous target

end Params

end HttpRequest
