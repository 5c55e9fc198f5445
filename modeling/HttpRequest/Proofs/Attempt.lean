import HttpRequest.Attempt

/-! # What attempts preserve

An attempt stays within a relation when the state it leaves, whether it succeeded or failed, is always
related to the state it found. For a relation that is reflexive and transitive this goes through
sequences, so it needs to be shown for the single steps only.
-/
namespace HttpRequest.Attempt

variable {σ α β : Type} {R : σ → σ → Prop}

/-- Every run of the attempt leaves a state related to the one it found. -/
def Within (R : σ → σ → Prop) (a : Attempt σ α) : Prop :=
  ∀ s, R s (a.exec s).2

theorem within_bind (trans : ∀ x y z, R x y → R y z → R x z) {a : Attempt σ α}
    {f : α → Attempt σ β} (first : a.Within R) (next : ∀ x, (f x).Within R) :
    (a >>= f).Within R := by
  intro s
  have h := first s
  rw [exec_bind]
  cases step : a.exec s with
  | mk result t =>
    rw [step] at h
    cases result with
    | ok x => exact trans _ _ _ h (next x t)
    | error e => exact h

section Steps
variable (refl : ∀ s, R s s)
include refl

theorem within_pure (x : α) : (pure x : Attempt σ α).Within R := refl

theorem within_throw (f : Failure) : (throw f : Attempt σ α).Within R := refl

theorem within_get : (get : Attempt σ σ).Within R := refl

theorem within_lift (result : Except Failure α) : (liftM result : Attempt σ α).Within R := by
  intro s
  cases result <;> exact refl s

end Steps

theorem within_change {f : σ → σ} (step : ∀ s, R s (f s)) : (change f).Within R :=
  step

theorem exec_bind_of_ok {a : Attempt σ α} {s t : σ} {x : α} (first : a.exec s = (.ok x,t))
    (f : α → Attempt σ β) : (a >>= f).exec s = (f x).exec t := by
  rw [exec_bind, first]

theorem exec_unless {c : Prop} [Decidable c] (passes : ¬c) (f : Failure) (next : Unit → Attempt σ α) (s : σ) :
    exec (if c then throw f >>= next else next ()) s = (next ()).exec s := by
  rw [if_neg passes]

end HttpRequest.Attempt
