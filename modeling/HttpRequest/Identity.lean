import HttpRequest.Failure
import HttpRequest.Text.Sorted

/-! # Users and logins

Whether and as whom the sender of a request is authenticated. A login service outside checks names
and passwords; the roles of a user are a set.
-/
namespace HttpRequest

structure User where
  name : String
  scheme : String
  roles : List String := []
deriving DecidableEq, Repr

def User.withRoles (u : User) (roles : List String) : User :=
  { u with roles := roles.foldl (fun sorted role => Sorted.insert role sorted) u.roles }

inductive Authentication where
  /-- Nobody has looked yet. -/
  | notChecked
  /-- There were no credentials. -/
  | unauthenticated
  | user (u : User)
deriving DecidableEq, Repr, Inhabited

namespace Authentication

def user? : Authentication → Option User
  | .user u => some u
  | _ => none

def hasRole (a : Authentication) (role : String) : Bool :=
  match a with
  | .user u => u.roles.contains role
  | _ => false

/-- After a logout a user is no longer authenticated; who was never checked stays so. -/
def loggedOut : Authentication → Authentication
  | .notChecked => .notChecked
  | _ => .unauthenticated

end Authentication

structure LoginKey where
  number : Nat
deriving DecidableEq, Repr, Inhabited

class LoginServices (E : Type) where
  login : LoginKey → (name password : String) → E → Except Failure (Option User) × E
  logout : LoginKey → User → E → E

end HttpRequest
