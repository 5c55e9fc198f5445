import HttpRequest.Failure

/-! # Attempts

An attempt changes a state and gives a result or a failure; what it changed before it failed stays
changed. The handling of a request may also be cut short, which is a third outcome.
-/
namespace HttpRequest

/-- A step on a state that may fail and keeps what it did. -/
abbrev Attempt (σ : Type) := ExceptT Failure (StateM σ)

namespace Attempt

variable {σ τ α : Type}

def exec (a : Attempt σ α) (s : σ) : Except Failure α × σ :=
  a s

def of (f : σ → Except Failure α × σ) : Attempt σ α :=
  f

def change (f : σ → σ) : Attempt σ Unit :=
  fun s => (.ok (), f s)

@[simp] theorem exec_of (f : σ → Except Failure α × σ) (s : σ) : (of f).exec s = f s :=
  rfl

theorem exec_bind {β : Type} (a : Attempt σ α) (f : α → Attempt σ β) (s : σ) :
    (a >>= f).exec s = match a.exec s with
      | (.ok x, s) => (f x).exec s
      | (.error e, s) => (.error e, s) := by
  have step : (a >>= f) s = ExceptT.bindCont f (a s).1 (a s).2 := rfl
  simp only [exec, step]
  rcases a s with ⟨r, next⟩
  cases r <;> rfl

end Attempt

inductive Outcome (α : Type) where
  | ok (result : α)
  | failed (f : Failure)
  | panicked (message : String)
deriving Repr

namespace Outcome

def ofExcept {α : Type} : Except Failure α → Outcome α
  | .ok a => .ok a
  | .error f => .failed f

def isOk {α : Type} : Outcome α → Bool
  | .ok _ => true
  | _ => false

end Outcome

end HttpRequest
