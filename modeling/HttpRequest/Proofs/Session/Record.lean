import HttpRequest.Proofs.Dispatch.Journal
import HttpRequest.Proofs.Dispatch.Entry

/-! # Sessions in a journal

While a request is handled a journal is kept of the sessions that are entered, of the calls for the
commit, and of what the session managers are asked to do. The sessions of the request are at any time
the first entries in the journal, one for each session. So whoever is told of all of them is told of
each session once.
-/
namespace HttpRequest

open Body (ExternalSources Observed)
open Request DispatchTarget

/-- What a journal of sessions tells: the handler enters a session or says that the response is being
committed, or a manager is called. -/
inductive SessionEvent where
  | entered (entry : EnteredSession)
  | committing
  | called (call : SessionCall)
deriving DecidableEq, Repr

instance : Journal (List SessionEvent) where
  session call log := log ++ [.called call]
  response _ log := log

theorem Request.Found.sessions {r called : Request} {t : DispatchTarget} {way : DispatchWay}
    (found : Found r t way called) : called.sessions = r.sessions ∧ called.committed = r.committed := by
  cases found <;> exact ⟨rfl,rfl⟩

theorem DispatchTarget.restore_sessions (t : DispatchTarget) (way : DispatchWay) (before left : Request) :
    (t.restore way before left).sessions = left.sessions ∧ (t.restore way before left).committed = left.committed := by
  cases way <;> cases t <;> exact ⟨rfl,rfl⟩

namespace Sessions

/-- The sessions that were entered, by the handler or because they were created for the request. -/
def entries (log : List SessionEvent) : List EnteredSession :=
  log.filterMap fun
    | .entered entry => some entry
    | .called (.create manager (some session)) => some ⟨session, manager⟩
    | _ => none

def commits (log : List SessionEvent) : List EnteredSession :=
  log.filterMap fun
    | .called (.commit entry) => some entry
    | _ => none

def completions (log : List SessionEvent) : List EnteredSession :=
  log.filterMap fun
    | .called (.complete entry) => some entry
    | _ => none

@[simp] theorem entries_append (log later : List SessionEvent) : entries (log ++ later) = entries log ++ entries later :=
  List.filterMap_append

@[simp] theorem commits_append (log later : List SessionEvent) : commits (log ++ later) = commits log ++ commits later :=
  List.filterMap_append

@[simp] theorem completions_append (log later : List SessionEvent) :
    completions (log ++ later) = completions log ++ completions later :=
  List.filterMap_append

/-- The first entry of each session, in order. -/
def firsts : List EnteredSession → List EnteredSession
  | [] => []
  | entry :: rest => entry :: (firsts rest).filter (·.session ≠ entry.session)

theorem firsts_append_singleton (l : List EnteredSession) (entry : EnteredSession) :
    firsts (l ++ [entry]) =
      if ∃ known ∈ l, known.session = entry.session then firsts l else firsts l ++ [entry] := by
  induction l with
  | nil => rfl
  | cons first rest ih =>
    rw [List.cons_append, firsts, ih]
    by_cases again : ∃ known ∈ rest, known.session = entry.session
    · obtain ⟨known,mem,same⟩ := again
      rw [if_pos ⟨known,mem,same⟩, if_pos ⟨known,List.mem_cons_of_mem _ mem,same⟩, firsts]
    · rw [if_neg again, List.filter_append]
      by_cases same : first.session = entry.session
      · rw [if_pos ⟨first,List.mem_cons_self,same⟩, firsts]
        simp [same]
      · have new : ¬∃ known ∈ first :: rest, known.session = entry.session := by
          rintro ⟨known,mem,found⟩
          rcases List.mem_cons.mp mem with rfl | mem
          · exact same found
          · exact again ⟨known,mem,found⟩
        rw [if_neg new, firsts]
        simp [Ne.symm same]

theorem filter_firsts (l : List EnteredSession) (session : SessionKey) :
    (firsts l).filter (·.session = session) = (l.find? (·.session = session)).toList := by
  induction l with
  | nil => rfl
  | cons first rest ih =>
    unfold firsts
    by_cases same : first.session = session
    · simp [same]
    · have others : ((firsts rest).filter (·.session ≠ first.session)).filter (·.session = session) =
          (firsts rest).filter (·.session = session) := by
        rw [List.filter_filter]
        apply List.filter_congr
        intro entry _
        simpa using fun found => found ▸ Ne.symm same
      rw [List.filter_cons_of_neg (by simpa using same), List.find?_cons_of_neg (by simpa using same), others, ih]

theorem exists_mem_firsts_iff {l : List EnteredSession} {session : SessionKey} :
    (∃ entry ∈ firsts l, entry.session = session) ↔ ∃ entry ∈ l, entry.session = session := by
  have same : (firsts l).filter (·.session = session) ≠ [] ↔ l.find? (·.session = session) ≠ none := by
    rw [filter_firsts]
    simp
  simpa [List.filter_eq_nil_iff] using same

theorem entered_enter {s : Sessions} {l : List EnteredSession} (known : s.entered = firsts l)
    (session : SessionKey) (manager : ManagerKey) :
    (s.enter session manager).entered = firsts (l ++ [⟨session,manager⟩]) := by
  have once : s.hasEntered session = true ↔ ∃ entry ∈ l, entry.session = session := by
    rw [← exists_mem_firsts_iff, ← known]
    simp [hasEntered]
  rw [firsts_append_singleton, enter]
  split
  next again => rw [if_pos (once.mp again), known]
  next new => rw [if_neg (new ∘ once.mpr), ← known]

/-- Where a journal comes to the first commit: then every session entered so far is committed, once and
in order, and later none is, nor is one created. -/
structure CommittedAt (log before later : List SessionEvent) : Prop where
  parts : log = before ++ .committing :: (firsts (entries before)).map (.called ∘ .commit) ++ later
  first : .committing ∉ before
  uncommitted : commits before = []
  nothing : commits later = []
  noCreation : ∀ manager made, .called (.create manager made) ∉ later

/-- The event may be noted while a handler runs, before the commit or after it. -/
def Fits (committed : Bool) : SessionEvent → Prop
  | .entered _ => True
  | .committing => committed = true
  | .called (.create _ _) => committed = false
  | .called (.commit _) | .called (.complete _) => False

theorem Fits.silent {committed : Bool} {event : SessionEvent} (fits : Fits committed event) :
    completions [event] = [] ∧ commits [event] = [] := by
  cases event with
  | entered entry => exact ⟨rfl,rfl⟩
  | committing => exact ⟨rfl,rfl⟩
  | called call =>
    cases call with
    | create manager made => exact ⟨rfl,rfl⟩
    | commit entry => exact fits.elim
    | complete entry => exact fits.elim

theorem CommittedAt.append {log before later new : List SessionEvent} (h : CommittedAt log before later)
    (nothing : commits new = []) (noCreation : ∀ manager made, .called (.create manager made) ∉ new) :
    CommittedAt (log ++ new) before (later ++ new) where
  parts := by rw [h.parts, List.append_assoc]
  first := h.first
  uncommitted := h.uncommitted
  nothing := by rw [commits_append, h.nothing, nothing, List.append_nil]
  noCreation := by
    intro manager made mem
    exact (List.mem_append.mp mem).elim (h.noCreation manager made) (noCreation manager made)

section Records

variable {E : Type}

/-- What the journal tells about the sessions of a request while its handler runs. -/
structure Recorded (s : Request × Observed E (List SessionEvent)) : Prop where
  entered : s.1.sessions.entered = firsts (entries s.2.log)
  uncompleted : completions s.2.log = []
  uncommitted : s.1.committed = false → .committing ∉ s.2.log ∧ commits s.2.log = []
  committed : s.1.committed = true → ∃ before later, CommittedAt s.2.log before later

variable {s t : Request × Observed E (List SessionEvent)}

theorem Recorded.keep (h : Recorded s) (entered : t.1.sessions.entered = s.1.sessions.entered)
    (committed : t.1.committed = s.1.committed) (log : SameLog s.2 t.2) : Recorded t := by
  constructor
  · rw [entered, log, h.entered]
  · rw [log, h.uncompleted]
  · rw [committed, log]
    exact h.uncommitted
  · rw [committed, log]
    exact h.committed

theorem Recorded.append (h : Recorded s) (event : SessionEvent) (fits : Fits s.1.committed event)
    (entered : t.1.sessions.entered = firsts (entries (s.2.log ++ [event])))
    (committed : t.1.committed = s.1.committed) (log : t.2.log = s.2.log ++ [event]) : Recorded t := by
  constructor
  · rw [entered, log]
  · rw [log, completions_append, h.uncompleted, fits.silent.1]
    rfl
  · rw [committed, log]
    intro uncommitted
    have other : .committing ≠ event := by
      rintro rfl
      exact Bool.false_ne_true (uncommitted.symm.trans fits)
    rw [commits_append, (h.uncommitted uncommitted).2, fits.silent.2]
    exact ⟨by simpa [(h.uncommitted uncommitted).1] using other,rfl⟩
  · rw [committed, log]
    intro isCommitted
    have noCreation : ∀ manager made, .called (.create manager made) ∉ [event] := by
      intro manager made mem
      cases List.mem_singleton.mp mem
      exact Bool.false_ne_true (fits.symm.trans isCommitted)
    obtain ⟨before,later,split⟩ := h.committed isCommitted
    exact ⟨before,_,split.append fits.silent.2 noCreation⟩

theorem Recorded.commit (h : Recorded s) (uncommitted : s.1.committed = false)
    (entered : t.1.sessions.entered = s.1.sessions.entered) (committed : t.1.committed = true)
    (log : t.2.log = s.2.log ++ .committing :: s.1.sessions.entered.map (.called ∘ .commit)) : Recorded t := by
  have split : CommittedAt t.2.log s.2.log [] := by
    refine ⟨?_,(h.uncommitted uncommitted).1,(h.uncommitted uncommitted).2,rfl,fun _ _ => List.not_mem_nil⟩
    rw [log, h.entered, List.append_nil]
  constructor
  · have noEntries : entries (.committing :: s.1.sessions.entered.map (.called ∘ .commit)) = [] := by
      simp [entries, List.filterMap_map]
    rw [log, entries_append, noEntries, List.append_nil, entered, h.entered]
  · have noCompletions : completions (.committing :: s.1.sessions.entered.map (.called ∘ .commit)) = [] := by
      simp [completions, List.filterMap_map]
    rw [log, completions_append, noCompletions, List.append_nil, h.uncompleted]
  · rw [committed]
    nofun
  · exact fun _ => ⟨_,_,split⟩

section Operations

variable [ExternalSources E] [SessionStores E] [LoginServices E] [AttributeObservers E]

def noteBefore : Operation (Observed E (List SessionEvent)) → Observed E (List SessionEvent) → Observed E (List SessionEvent)
  | .enterSession session manager, o => { o with log := o.log ++ [.entered ⟨session, manager⟩] }
  | .commit, o => { o with log := o.log ++ [.committing] }
  | _, o => o

/-- The operation leaves it to the connection to end the sessions, and the journal to others. -/
def Spares : Operation (Observed E (List SessionEvent)) → Prop
  | .complete => False
  | op => op.WillsWithin SameLog

omit [ExternalSources E] [SessionStores E] [LoginServices E] [AttributeObservers E] in
theorem log_foldl {tell : Observed E (List SessionEvent) → EnteredSession → Observed E (List SessionEvent)}
    {event : EnteredSession → SessionEvent} (noted : ∀ o entry, (tell o entry).log = o.log ++ [event entry])
    (l : List EnteredSession) (o : Observed E (List SessionEvent)) :
    (l.foldl tell o).log = o.log ++ l.map event := by
  induction l generalizing o with
  | nil => exact (List.append_nil o.log).symm
  | cons entry rest ih =>
    rw [List.foldl_cons, ih, noted, List.map_cons, List.append_assoc]
    rfl

omit [ExternalSources E] [LoginServices E] [AttributeObservers E] in
theorem commitAll_log (s : Sessions) (o : Observed E (List SessionEvent)) :
    (s.commitAll o).log = o.log ++ s.entered.map (.called ∘ .commit) := by
  refine log_foldl ?_ s.entered o
  exact fun _ _ => rfl

omit [ExternalSources E] [LoginServices E] [AttributeObservers E] in
theorem completeAll_log (s : Sessions) (o : Observed E (List SessionEvent)) :
    (completeAll (s,o)).2.log = o.log ++ s.entered.map (.called ∘ .complete) := by
  refine log_foldl ?_ s.entered o
  exact fun _ _ => rfl

omit [ExternalSources E] [LoginServices E] [AttributeObservers E] in
theorem validCurrent_same (s : Sessions × Observed E (List SessionEvent)) :
    (validCurrent s).2.1.entered = s.1.entered ∧ SameLog s.2 (validCurrent s).2.2 := by
  have judged (manager : Option ManagerKey) (session : SessionKey) (o : Observed E (List SessionEvent)) :
      SameLog o (currentIsValid manager session o).2 := by
    unfold currentIsValid
    split
    · split <;> rfl
    · rfl
  unfold validCurrent
  dsimp only
  split
  · exact ⟨rfl,rfl⟩
  · split <;> exact ⟨rfl,judged _ _ s.2⟩

omit [ExternalSources E] [LoginServices E] [AttributeObservers E] in
theorem Recorded.findSession (h : Recorded s) (create : Bool) : Recorded (Request.session create s).2 := by
  obtain ⟨r,o⟩ := s
  have same := validCurrent_same (r.sessions,o)
  unfold Request.session Sessions.getOrCreate
  dsimp only
  generalize validCurrent (r.sessions,o) = looked at same
  obtain ⟨valid,sessions,left⟩ := looked
  have kept : Recorded ({ r with sessions },left) := h.keep same.1 rfl same.2
  cases valid with
  | some session => exact kept
  | none =>
    dsimp only
    split
    · exact kept
    · split
      · exact kept
      next uncommitted =>
        have fits (manager : ManagerKey) (made : Option SessionKey) : Fits r.committed (.called (.create manager made)) := by
          simpa [Fits] using uncommitted
        unfold createCurrent
        dsimp only
        cases sessions.manager with
        | none => exact kept
        | some manager =>
          dsimp only
          cases made : SessionStores.create manager left.env with
          | mk result env =>
            have noted : SessionStores.create manager left =
                (result,{ env, log := left.log ++ [.called (.create manager result.toOption)] }) := by
              show noted _ (SessionStores.create manager left.env) left.log = _
              rw [made]
              rfl
            rw [noted]
            cases result with
            | error f =>
              exact kept.append _ (fits manager none) (by simpa [entries] using kept.entered) rfl rfl
            | ok session =>
              refine kept.append _ (fits manager (some session)) ?_ rfl rfl
              rw [entries_append]
              exact entered_enter kept.entered session manager

theorem Recorded.operation {op : Operation (Observed E (List SessionEvent))} (spares : Spares op) (h : Recorded s) :
    Recorded (op.run (s.1,noteBefore op s.2)) := by
  obtain ⟨r,o⟩ := s
  cases uses : op.usesSessions with
  | false =>
    have unnoted : noteBefore op o = o := by
      cases op <;> first | rfl | cases uses
    have wills : op.WillsWithin SameLog := by
      cases op <;> first | exact spares | cases uses
    have rest := op.run_rest (r,o)
    have log : SameLog o (op.run (r,o)).2 :=
      op.run_environment (Q := SameLog) (fun _ => rfl) (fun first second => second.trans first) sameLog_of_consulted wills
        (by simp [uses]) (r,o)
    rw [unnoted]
    exact h.keep (congrArg Sessions.entered (rest.sessions uses)) (rest.committed uses) log
  | true =>
    cases op with
    | setSessionManager manager => exact h.keep rfl rfl rfl
    | setSession session => exact h.keep rfl rfl rfl
    | enterSession session manager =>
      refine h.append (.entered ⟨session,manager⟩) trivial ?_ rfl rfl
      rw [entries_append]
      exact entered_enter h.entered session manager
    | findSession create => exact h.findSession create
    | changeSessionId =>
      have found : Recorded (Request.session false (r,o)).2 := h.findSession false
      show Recorded (Request.changeSessionId (r,o)).2
      unfold Request.changeSessionId
      split
      next failed => rw [failed] at found; exact found
      next missing => rw [missing] at found; exact found
      next key after left current =>
        rw [current] at found
        have renewed : SameLog left (after.sessions.renewId key left).2 := by
          unfold Sessions.renewId
          split <;> rfl
        exact found.keep rfl rfl renewed
    | commit =>
      show Recorded (Request.commit (r,{ o with log := o.log ++ [.committing] }))
      unfold Request.commit
      dsimp only
      split
      next committed => exact h.append .committing committed (by simpa [entries] using h.entered) rfl rfl
      next uncommitted =>
        have told := commitAll_log (E := E) r.sessions { o with log := o.log ++ [.committing] }
        exact h.commit (by simpa using uncommitted) rfl rfl (told.trans (List.append_assoc _ _ _))
    | complete => exact spares.elim
    | _ => cases uses

variable [ResponseControl E]

omit [ExternalSources E] [SessionStores E] [LoginServices E] [AttributeObservers E] in
theorem sameLog_of_responded {o o' : Observed E (List SessionEvent)} (responded : Responded o o') : SameLog o o' := by
  cases responded <;> rfl

omit [ExternalSources E] [SessionStores E] [LoginServices E] [AttributeObservers E] in
theorem Recorded.dispatch (h : Recorded s) {way : DispatchWay} {t : DispatchTarget}
    {handler : Handler (Observed E (List SessionEvent))}
    (keeps : ∀ called, t.enter way s = .ok called → Recorded called → Recorded (handler t.text called).2) :
    Recorded (t.run way handler s).2 := by
  cases entered : t.enter way s with
  | ok called =>
    have begun : SameLog s.2 called.2 := enter_environment sameLog_of_responded entered
    have found := (found_of_enter entered).sessions
    have handled := keeps called entered (h.keep (congrArg Sessions.entered found.1) found.2 begun)
    rw [run_of_enter entered]
    have ended : SameLog (handler t.text called).2.2 (t.leave way s.1 (handler t.text called)).2.2 :=
      leave_environment (Q := SameLog) (fun _ => rfl) sameLog_of_responded way t s.1 _ _
    have restored := t.restore_sessions way s.1 (handler t.text called).2.1
    rw [← leave_request] at restored
    exact handled.keep (congrArg Sessions.entered restored.1) restored.2 ended
  | error f =>
    have ended : SameLog s.2 (t.run way handler s).2.2 :=
      refused_environment (Q := SameLog) (fun first second => second.trans first) sameLog_of_responded entered handler
    obtain ⟨after,ends,same | unmerged⟩ := run_of_not_entered entered
    · rw [ends] at ended ⊢
      exact h.keep (by rw [same]) (by rw [same]) ended
    · rw [ends] at ended ⊢
      exact h.keep (by rw [unmerged]; rfl) (by rw [unmerged]; rfl) ended

theorem Recorded.run {p : Program (Observed E (List SessionEvent))} (only : p.Only Spares) (h : Recorded s) :
    Recorded ((p.noting noteBefore).run s).2 := by
  -- By induction on the program, the handlers of its dispatches included.
  induction p generalizing s with
  | done outcome => exact h
  | perform op next ih =>
    have done : Recorded (op.run (s.1,noteBefore op s.2)) := h.operation only.1
    exact ih _ _ (only.2 _ _) done
  | dispatch way t handler next inner ih =>
    have ended : Recorded (t.run way (Program.handling fun text => (handler text).noting noteBefore) s).2 :=
      h.dispatch fun called _ begun => inner t.text (only.1 t.text) begun
    exact ih _ _ _ (only.2 _ _ _) ended

end Operations

end Records

end Sessions

end HttpRequest
