import HttpRequest.Proofs.Connection.Isolation
import HttpRequest.Proofs.Session.Record

/-! # Sessions of a request that is served

A request begins without sessions, and when its handler is done the managers are told of those that it
has then. Between the two the journal of the request records them, so that it gives the account of all
that the managers were asked to do.
-/
namespace HttpRequest

open Body (ExternalSources Observed)
open Request

namespace Connection

open Sessions

variable {E : Type} [ExternalSources E] [SessionStores E] [LoginServices E] [AttributeObservers E] [ResponseControl E]

omit [LoginServices E] [AttributeObservers E] [ResponseControl E] in
theorem begin_sessions [UriGrammar] {a : Arriving} {c begun : Connection} {e left : E} (accepted : begin a (c,e) = (.ok (),begun,left)) :
    begun.request.sessions = c.request.sessions ∧ begun.request.committed = c.request.committed := by
  unfold begin at accepted
  dsimp only at accepted
  rw [withMetadata_eq] at accepted
  cases line : c.request.requestLine a.method a.target a.headers with
  | error f =>
    rw [line] at accepted
    cases accepted
  | ok l =>
    rw [line] at accepted
    cases accepted
    exact ⟨rfl,rfl⟩

omit [ResponseControl E] in
theorem finish_log (s : Connection × Observed E (List SessionEvent)) :
    (finish s).2.log = s.2.log ++ s.1.request.sessions.entered.map (.called ∘ .complete) := by
  obtain ⟨c,o⟩ := s
  have told := completeAll_log c.request.sessions o
  have moves : Body.Moves fun s t : Body.Input × Observed E (List SessionEvent) => SameLog s.2 t.2 :=
    Operation.moves_of_called (fun _ => rfl) (fun first second => second.trans first) fun call => sameLog_of_consulted (.source call)
  have drained (s : Request × Observed E (List SessionEvent)) : SameLog s.2 (recycle s).2 := by
    unfold recycle
    dsimp only
    split
    · exact moves.readAllWithin _ (s.1.body,s.2)
    · rfl
  exact Eq.trans (drained (complete (c.request,o))) told

/-- The account of the sessions of one request, from its journal. When the handler is done, each session
that was entered is completed once, by the manager that it was first entered with. -/
structure Accounted (log : List SessionEvent) : Prop where
  completed : ∃ during, log = during ++ (firsts (entries during)).map (.called ∘ .complete) ∧ completions during = []
  once : ∀ session, (completions log).filter (·.session = session) = ((entries log).find? (·.session = session)).toList
  uncommitted : .committing ∉ log → commits log = []
  committed : .committing ∈ log → ∃ before later, CommittedAt log before later

omit [ExternalSources E] [SessionStores E] [LoginServices E] [AttributeObservers E] [ResponseControl E] in
theorem accounted_of_recorded {s : Request × Observed E (List SessionEvent)} (h : Recorded s) :
    Accounted (s.2.log ++ s.1.sessions.entered.map (.called ∘ .complete)) := by
  obtain ⟨r,o⟩ := s
  obtain ⟨ends,isEnds⟩ : ∃ ends : List SessionEvent, ends = r.sessions.entered.map (.called ∘ .complete) := ⟨_,rfl⟩
  have noEntries : entries ends = [] := by
    rw [isEnds]
    simp [entries, List.filterMap_map]
  have noCommits : commits ends = [] := by
    rw [isEnds]
    simp [commits, List.filterMap_map]
  have all : completions ends = r.sessions.entered := by
    rw [isEnds]
    simp [completions, List.filterMap_map, Function.comp_def]
  have quiet : .committing ∉ ends ∧ ∀ manager made, .called (.create manager made) ∉ ends := by
    rw [isEnds]
    simp
  show Accounted (o.log ++ r.sessions.entered.map (.called ∘ .complete))
  rw [← isEnds]
  refine ⟨⟨o.log,?_,h.uncompleted⟩,?_,?_,?_⟩
  · rw [isEnds, h.entered]
  · intro session
    rw [completions_append, h.uncompleted, List.nil_append, all, entries_append, noEntries, List.append_nil,
      h.entered, filter_firsts]
  · intro never
    cases committed : r.committed with
    | false => rw [commits_append, (h.uncommitted committed).2, noCommits, List.append_nil]
    | true =>
      obtain ⟨before,later,split⟩ := h.committed committed
      refine absurd (List.mem_append_left ends ?_) never
      rw [split.parts]
      simp
  · intro sometime
    cases committed : r.committed with
    | false =>
      rcases List.mem_append.mp sometime with mem | mem
      · exact absurd mem (h.uncommitted committed).1
      · exact absurd mem quiet.1
    | true =>
      obtain ⟨before,later,split⟩ := h.committed committed
      exact ⟨before,_,split.append noCommits quiet.2⟩

/-- Whatever a handler does with the sessions of its request, short of ending them itself, and however it
ends, the managers are told once of each session that was entered. The journal begins with the request,
and the connection may have any history. -/
theorem sessions_accounted [UriGrammar] (settings : Settings) (history : List (Event (Observed E (List SessionEvent))))
    (first : Observed E (List SessionEvent)) (a : Arriving) (e : E)
    {p : Program (Observed E (List SessionEvent))} (only : p.Only Spares) :
    Accounted (serve a (p.noting noteBefore).run ((past settings history first).1,⟨e,[]⟩)).2.2.log ∧
      (serve a (p.noting noteBefore).run ((past settings history first).1,⟨e,[]⟩)).2.1.request.sessions = {} := by
  have idle := idle_past settings history first
  generalize (past settings history first).1 = c at idle
  have start : c.request.sessions = {} ∧ c.request.committed = false := by
    obtain ⟨timeout,rest⟩ := idle
    rw [rest]
    exact ⟨rfl,rfl⟩
  rcases begin_of_idle settings _ _ a (⟨e,[]⟩ : Observed E (List SessionEvent)) with ⟨f,refuses⟩ | ⟨r,-,-,-,begins⟩
  · obtain ⟨left,⟨timeout,rest⟩,refused⟩ := refuses c idle
    rw [serve_of_refused refused, rest]
    refine ⟨⟨⟨[],rfl,rfl⟩,fun _ => rfl,fun _ => rfl,nofun⟩,rfl⟩
  · obtain ⟨begun,-,accepted⟩ := begins c idle
    have kept := begin_sessions accepted
    have starts : Recorded (begun.request,(⟨e,[]⟩ : Observed E (List SessionEvent))) := by
      refine ⟨?_,rfl,fun _ => ⟨List.not_mem_nil,rfl⟩,?_⟩
      · rw [kept.1, start.1]
        rfl
      · rw [kept.2, start.2]
        nofun
    rw [serve_of_begun accepted]
    refine ⟨?_,rfl⟩
    rw [finish_log]
    exact accounted_of_recorded (starts.run only)

open CommonGrammar

/-- Enters a session with two managers, has one created, and goes on after the commit, inside a handler
that panics and after it. -/
def sessionUser : Program (Observed (Scripted.Environment Unit) (List SessionEvent)) :=
  .perform (.enterSession ⟨7⟩ ⟨1⟩) fun _ _ => .perform (.setSessionManager (some ⟨0⟩)) fun _ _ =>
    .dispatch .inclusion (.named "inner")
      (fun _ => .perform (.enterSession ⟨7⟩ ⟨0⟩) fun _ _ => .perform (.findSession true) fun _ _ => .done (.panicked "inner"))
      fun _ _ _ => .perform .commit fun _ _ => .perform (.setSession none) fun _ _ =>
        .perform (.findSession true) fun _ _ => .perform (.enterSession ⟨5⟩ ⟨0⟩) fun _ _ => .perform .commit fun _ _ =>
          .done (.panicked "outer")

theorem sessionUser_accounted : sessionUser.Only Spares ∧
    ∃ c e log, c = past {} [.visit nextVisit (sessionUser.noting noteBefore)] ⟨e,[]⟩ ∧
      log = (serve nextVisit (sessionUser.noting noteBefore).run (c.1,⟨e,[]⟩)).2.2.log ∧ Accounted log ∧
      log = [.entered ⟨⟨7⟩,⟨1⟩⟩, .entered ⟨⟨7⟩,⟨0⟩⟩, .called (.create ⟨0⟩ (some ⟨0⟩)), .committing,
        .called (.commit ⟨⟨7⟩,⟨1⟩⟩), .called (.commit ⟨⟨0⟩,⟨0⟩⟩), .entered ⟨⟨5⟩,⟨0⟩⟩, .committing,
        .called (.complete ⟨⟨7⟩,⟨1⟩⟩), .called (.complete ⟨⟨0⟩,⟨0⟩⟩), .called (.complete ⟨⟨5⟩,⟨0⟩⟩)] := by
  have only : sessionUser.Only Spares := by
    simp [sessionUser, Program.Only, Spares, Operation.WillsWithin]
  refine ⟨only,_,{ kept := () },_,rfl,rfl,?_,?_⟩
  · exact (sessions_accounted {} [.visit nextVisit (sessionUser.noting noteBefore)] _ nextVisit _ only).1
  · decide +kernel

end Connection

end HttpRequest
