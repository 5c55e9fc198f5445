import HttpRequest.Proofs.Request.Operation
import HttpRequest.Scripted.Collaborators

/-! # The requested session

Two parts of a request judge its current session. The one that hands it out asks the manager in use, if the
session is one of its own, and the one that tells whether the client asked for a valid session asks the session
alone. So they agree as long as that manager judges the requested session as it judges itself.
-/
namespace HttpRequest

namespace Sessions

variable {E : Type} [SessionStores E]

theorem getOrCreate_false (committed : Bool) (s : Sessions × E) :
    (getOrCreate false committed s).1 =
      .ok (s.1.current.filter fun session => (currentIsValid s.1.manager session s.2).1) := by
  obtain ⟨sessions,e⟩ := s
  unfold getOrCreate validCurrent
  dsimp only
  cases sessions.current with
  | none => rfl
  | some session =>
    dsimp only
    cases valid : (currentIsValid sessions.manager session e).1 <;> simp [Option.filter, valid]

theorem currentIsValid_of_stranger {manager : Option ManagerKey} {session : SessionKey} {e : E}
    (stranger : ∀ m, manager = some m → SessionStores.managerName m e ≠ SessionStores.sessionOwner session e) :
    (currentIsValid manager session e).1 = SessionStores.sessionIsValid session e := by
  cases manager with
  | none => rfl
  | some m =>
    have other := stranger m rfl
    simp [currentIsValid, other]

theorem currentIsValid_of_owner {manager : ManagerKey} {session : SessionKey} {e : E}
    (owner : SessionStores.managerName manager e = SessionStores.sessionOwner session e) :
    (currentIsValid (some manager) session e).1 = (SessionStores.isValid manager session e).1 := by
  simp [currentIsValid, owner]

end Sessions

namespace Request

open SessionStores Sessions

section Requested

variable {E : Type} [SessionStores E] (r : Request) (e : E)

/-- The session is the current one and has the id that the client asked for. -/
def NamesCurrent (session : SessionKey) : Prop :=
  r.sessions.current = some session ∧ ∃ requested, r.requestedSession = some requested ∧ sessionId session e = requested.id

/-- To ask for a session, without a new one, gives the session with the id that the client asked for. -/
def HandsOutRequested : Prop :=
  ∃ requested found, r.requestedSession = some requested ∧
    (Request.session false (r,e)).1 = .ok (some found) ∧ sessionId found e = requested.id

/-- The manager in use has the name of the manager that the session belongs to. -/
def Oversees (manager : ManagerKey) (session : SessionKey) : Prop :=
  r.sessions.manager = some manager ∧ managerName manager e = sessionOwner session e

variable {r : Request} {e : E}

theorem handsOutRequested_iff :
    r.HandsOutRequested e ↔
      ∃ session, r.NamesCurrent e session ∧ (currentIsValid r.sessions.manager session e).1 = true := by
  have found (session : SessionKey) : (Request.session false (r,e)).1 = .ok (some session) ↔
      r.sessions.current = some session ∧ (currentIsValid r.sessions.manager session e).1 = true := by
    have asked : (Request.session false (r,e)).1 = (getOrCreate false r.committed (r.sessions,e)).1 := rfl
    rw [asked, getOrCreate_false, Except.ok.injEq, Option.filter_eq_some_iff]
  constructor
  · rintro ⟨requested,session,asked,given,same⟩
    obtain ⟨current,valid⟩ := (found session).mp given
    exact ⟨session,⟨current,requested,asked,same⟩,valid⟩
  · rintro ⟨session,⟨current,requested,asked,same⟩,valid⟩
    exact ⟨requested,session,asked,(found session).mpr ⟨current,valid⟩,same⟩

theorem requestedSessionIsValid_iff :
    r.requestedSessionIsValid e = true ↔ ∃ session, r.NamesCurrent e session ∧ sessionIsValid session e = true := by
  unfold requestedSessionIsValid NamesCurrent
  constructor
  · intro valid
    split at valid
    next requested session asked current =>
      obtain ⟨sound,same⟩ := Bool.and_eq_true_iff.mp valid
      exact ⟨session,⟨current,requested,asked,beq_iff_eq.mp same⟩,sound⟩
    next => cases valid
  · rintro ⟨session,⟨current,requested,asked,same⟩,sound⟩
    simp [current, asked, same, sound]

namespace NamesCurrent

variable {session : SessionKey} (named : r.NamesCurrent e session)
include named

theorem eq {other : SessionKey} (too : r.NamesCurrent e other) : other = session :=
  Option.some.inj (too.1.symm.trans named.1)

theorem handsOut_iff : r.HandsOutRequested e ↔ (currentIsValid r.sessions.manager session e).1 = true := by
  rw [handsOutRequested_iff]
  refine ⟨?_,fun valid => ⟨session,named,valid⟩⟩
  rintro ⟨other,too,valid⟩
  rwa [← named.eq too]

theorem isValid_iff : r.requestedSessionIsValid e = true ↔ sessionIsValid session e = true := by
  rw [requestedSessionIsValid_iff]
  refine ⟨?_,fun valid => ⟨session,named,valid⟩⟩
  rintro ⟨other,too,valid⟩
  rwa [← named.eq too]

end NamesCurrent

theorem Oversees.decides {manager : ManagerKey} {session : SessionKey} (oversees : r.Oversees e manager session) :
    (currentIsValid r.sessions.manager session e).1 = (isValid manager session e).1 := by
  rw [oversees.1, currentIsValid_of_owner oversees.2]

/-- A session is judged otherwise than by itself only where a manager that oversees it decides so. -/
theorem overseen_of_ne {session : SessionKey}
    (differs : (currentIsValid r.sessions.manager session e).1 ≠ sessionIsValid session e) :
    ∃ manager, r.Oversees e manager session ∧ (isValid manager session e).1 ≠ sessionIsValid session e := by
  by_cases overseen : ∃ manager, r.Oversees e manager session
  · obtain ⟨manager,oversees⟩ := overseen
    exact ⟨manager,oversees,oversees.decides ▸ differs⟩
  · have alone := currentIsValid_of_stranger fun manager inUse owner => overseen ⟨manager,inUse,owner⟩
    exact absurd alone differs

/-- A request says that the client asked for a valid session exactly if it would hand that session out, provided
that the manager which oversees the session judges it as it judges itself. Of a session that it would not hand out
it says so exactly if the manager refuses it although it holds itself to be valid. -/
theorem requestedSession_agrees_iff (r : Request) (e : E) :
    ((r.requestedSessionIsValid e = true ↔ r.HandsOutRequested e) ↔
      ∀ session manager, r.NamesCurrent e session → r.Oversees e manager session →
        (isValid manager session e).1 = sessionIsValid session e) ∧
      (r.requestedSessionIsValid e = true ∧ ¬r.HandsOutRequested e ↔
        ∃ session manager, r.NamesCurrent e session ∧ r.Oversees e manager session ∧
          sessionIsValid session e = true ∧ (isValid manager session e).1 = false) := by
  refine ⟨⟨?_,?_⟩,⟨?_,?_⟩⟩
  · intro agree session manager named oversees
    rw [named.isValid_iff, named.handsOut_iff, oversees.decides] at agree
    exact Bool.eq_iff_iff.mpr agree.symm
  · intro same
    rw [requestedSessionIsValid_iff, handsOutRequested_iff]
    refine exists_congr fun session => and_congr_right fun named => ?_
    have judged : (currentIsValid r.sessions.manager session e).1 = sessionIsValid session e := by
      refine Decidable.byContradiction fun differs => ?_
      obtain ⟨manager,oversees,otherwise⟩ := overseen_of_ne differs
      exact otherwise (same session manager named oversees)
    rw [judged]
  · rintro ⟨reported,kept⟩
    obtain ⟨session,named,valid⟩ := requestedSessionIsValid_iff.mp reported
    rw [named.handsOut_iff] at kept
    obtain ⟨manager,oversees,otherwise⟩ := overseen_of_ne (valid ▸ kept)
    rw [valid, ne_eq, Bool.not_eq_true] at otherwise
    exact ⟨session,manager,named,oversees,valid,otherwise⟩
  · rintro ⟨session,manager,named,oversees,valid,refused⟩
    rw [named.isValid_iff, named.handsOut_iff, oversees.decides, refused]
    exact ⟨valid,Bool.false_ne_true⟩

end Requested

def refusing : Scripted.Environment Unit where
  managers := #[{ name := "m", full := true, createFailure := none, owner := "m", valid := some false, renewFailure := none }]
  kept := ()

theorem refusing_disagrees :
    ∃ s : Request × Scripted.Environment Unit,
      s = [Operation.setSessionManager (some ⟨0⟩), .findSession true, .setRequestedSession (some "m-s0") true].foldl
        (fun s op => op.run s) (Request.new {},refusing) ∧
      s.1.requestedSessionIsValid s.2 = true ∧ ¬s.1.HandsOutRequested s.2 := by
  refine ⟨_,rfl,by decide +kernel,?_⟩
  rintro ⟨requested,found,-,handed,-⟩
  have nothing : (Except.ok (some found) : Except Failure (Option SessionKey)).toOption = some none := by
    rw [← handed]
    decide +kernel
  cases nothing

end Request

end HttpRequest
