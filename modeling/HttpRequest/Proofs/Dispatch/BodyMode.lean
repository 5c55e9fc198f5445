import HttpRequest.Proofs.Dispatch.Passage
import HttpRequest.Scripted.Collaborators
import Mathlib.Data.List.Chain

/-! # The mode of a body

A body is read as bytes or as characters, and whoever asks first decides: a handler that opens the stream
or the reader, or a form that is extracted for parameters, in whatever dispatch. Nothing that is done
with the request afterwards changes the choice, and who comes for the other kind is sent away without
any effect.
-/
namespace HttpRequest

open Body (ExternalSources Input)
open Request DispatchTarget

namespace Body.Input

/-- A mode that was chosen stays, and with the mode of characters their charset. -/
structure Chosen (before after : Input) : Prop where
  mode : before.mode ≠ .idle → after.mode = before.mode
  charset : before.mode = .reader → after.decoder.charset = before.decoder.charset

theorem Chosen.of_same {i j : Input} (same : i.SameChoice j) : Chosen i j :=
  ⟨fun _ => same.mode,fun _ => same.charset⟩

theorem Chosen.trans {i j k : Input} (first : Chosen i j) (second : Chosen j k) : Chosen i k := by
  constructor
  · intro chosen
    have kept := first.mode chosen
    exact (second.mode (kept ▸ chosen)).trans kept
  · intro reader
    have kept := first.mode (by rw [reader]; nofun)
    exact (second.charset (kept.trans reader)).trans (first.charset reader)

theorem moves_chosen {E : Type} [ExternalSources E] : Moves fun s t : Input × E => Chosen s.1 t.1 := by
  apply Moves.of_called
  · exact .trans
  · exact fun _ same => .of_same same
  · exact fun _ _ _ idle => ⟨fun chosen => absurd idle chosen,fun reader => absurd (idle.symm.trans reader) nofun⟩
  · exact fun i _ _ _ => .of_same (.refl i)

end Body.Input

open Body.Input (Chosen)

namespace Operation

variable {E : Type} [ExternalSources E]

def UsesBody : Operation E → Prop
  | useBody change => Body.Use change
  | _ => True

variable [SessionStores E] [LoginServices E] [AttributeObservers E]

theorem run_chosen {op : Operation E} (fine : op.UsesBody) (s : Request × E) : Chosen s.1.body (op.run s).1.body := by
  have same {i : Input} : Chosen i i := .of_same (.refl i)
  refine op.run_moves Body.Input.moves_chosen s ?_ ?_ fun _ => same
  · exact fun source _ => .of_same ⟨rfl,rfl⟩
  · rintro change rfl
    exact Body.Input.moves_chosen.use (fun _ _ _ => same) (fun _ _ _ _ => .of_same ⟨rfl,rfl⟩) fine (s.1.body,s.2)

end Operation

namespace Request

theorem Proceeds.chosen {E : Type} [UriGrammar] [ExternalSources E] [SessionStores E] [LoginServices E] [AttributeObservers E]
    [ResponseControl E] {s t : Request × E} (on : Proceeds Operation.UsesBody s t) : Chosen s.1.body t.1.body := by
  have carries : Carries Operation.UsesBody fun s t : Request × E => Chosen s.1.body t.1.body := by
    refine carries_body (R := fun s t => Chosen s.1 t.1) ?_ .trans ?_ ?_
    · exact fun s => .of_same (.refl s.1)
    · exact fun s fine => Operation.run_chosen fine s
    · exact fun i _ _ _ => .of_same (.refl i)
  exact carries.proceeds on

section Refusals

variable {E : Type} [ExternalSources E]

def LeavesBody {α : Type} (a : Attempt (Request × E) α) (s : Request × E) : Prop :=
  (a.exec s).2.1.body = s.1.body ∧ (a.exec s).2.2 = s.2

variable {r : Request} {e : E}

theorem openReader_of_stream (streamed : r.body.mode = .stream) :
    openReader.exec (r,e) = (.error (.illegalState "STREAMED"),(r,e)) := by
  have busy : ¬r.body.mode = .idle := by
    rw [streamed]
    nofun
  have refuses : r.body.enterReader .utf8 = .error (.illegalState "STREAMED") := by
    simp only [Input.enterReader, streamed]
  rw [openReader, exec_current_bind, if_neg busy, chooseBody_exec, refuses]

theorem openStream_of_reader (read : r.body.mode = .reader) :
    openStream.exec (r,e) = (.error (.illegalState "READER"),(r,e)) := by
  have refuses : r.body.enterStream = .error (.illegalState "READER") := by
    simp only [Input.enterStream, read]
  rw [openStream, Attempt.exec_bind, chooseBody_exec, refuses]

theorem openReader_mode (opened : (openReader.exec (r,e)).1 = .ok ()) :
    (openReader.exec (r,e)).2.1.body.mode = .reader := by
  cases mode : r.body.mode with
  | stream =>
    rw [openReader_of_stream mode] at opened
    cases opened
  | reader =>
    have busy : ¬r.body.mode = .idle := by
      rw [mode]
      nofun
    have stays : r.body.enterReader .utf8 = .ok r.body := by
      simp only [Input.enterReader, mode]
    rw [openReader, exec_current_bind, if_neg busy, chooseBody_exec, stays]
    exact mode
  | idle =>
    rw [openReader, exec_current_bind, if_pos mode] at opened ⊢
    cases known : r.readerCharset with
    | error f =>
      rw [known] at opened
      cases opened
    | ok charset =>
      obtain ⟨entered,isEntered⟩ : ∃ entered : Input,
          entered = { r.body with mode := .reader, decoder := { r.body.decoder with charset } } := ⟨_,rfl⟩
      have enters : r.body.enterReader charset = .ok entered := by
        simp only [Input.enterReader, mode, isEntered]
      have continues : Chosen entered (Input.sendContinue (entered,e)).2.1 := Input.moves_chosen.sendContinue (entered,e)
      have reading : entered.mode = .reader := by rw [isEntered]
      have sent : (chooseBody (·.enterReader charset) >>= fun _ => onBody (.of Input.sendContinue)).exec (r,e) =
          (onBody (.of Input.sendContinue)).exec ({ r with body := entered },e) := by
        rw [Attempt.exec_bind, chooseBody_exec, enters]
      show ((chooseBody (·.enterReader charset) >>= fun _ => onBody (.of Input.sendContinue)).exec (r,e)).2.1.body.mode = _
      rw [sent]
      exact (continues.mode (by rw [reading]; nofun)).trans reading

theorem bodyParams_leavesBody (chosen : r.body.mode ≠ .idle) : LeavesBody bodyParams (r,e) := by
  have unformed : hasForm { r with params := r.params.markBodyTried } = false := by simp [hasForm, chosen]
  have empty : extractBody.exec ({ r with params := r.params.markBodyTried },e) =
      (.ok .empty,({ r with params := r.params.markBodyTried },e)) := by
    rw [extractBody, exec_current_bind, if_pos (by simp [unformed])]
    rfl
  unfold LeavesBody
  rw [bodyParams_exec]
  split
  · exact ⟨rfl,rfl⟩
  · rw [empty]
    exact ⟨rfl,rfl⟩

theorem allParams_leavesBody (chosen : r.body.mode ≠ .idle) : LeavesBody allParams (r,e) := by
  have asked : LeavesBody queryParams (r,e) := by
    unfold LeavesBody
    rw [queryParams_exec]
    split <;> exact ⟨rfl,rfl⟩
  unfold LeavesBody at asked ⊢
  rw [allParams_exec]
  cases r.params.merged with
  | some p => exact ⟨rfl,rfl⟩
  | none =>
    dsimp only
    generalize queryParams.exec (r,e) = first at asked
    obtain ⟨f | p,t⟩ := first
    · exact asked
    · have looked : LeavesBody bodyParams t := bodyParams_leavesBody (asked.1 ▸ chosen)
      unfold LeavesBody at looked
      dsimp only at asked ⊢
      generalize bodyParams.exec t = second at looked
      obtain ⟨f | p,u⟩ := second <;> exact ⟨looked.1.trans asked.1,looked.2.trans asked.2⟩

omit [ExternalSources E] in
theorem asReader_refused {α : Type} {i : Input} (other : i.mode ≠ .reader)
    (read : Input × E → Except Failure α × (Input × E)) :
    Input.asReader read (i,e) = (.error (.illegalState "reader mode not selected"),(i,e)) := by
  simp only [Input.asReader, Input.requireReader, if_neg other]

/-- The mode of the body is settled in a state. Who asks for the other kind of content is refused, which
changes nothing at all, and no form is read. With the mode of characters their charset is settled. -/
structure BodySettled (mode : Body.Mode) (charset : Charset) (s : Request × E) : Prop where
  chosen : s.1.body.mode = mode
  charset : mode = .reader → s.1.body.decoder.charset = charset
  noReader : mode = .stream → openReader.exec s = (.error (.illegalState "STREAMED"),s)
  noStream : mode = .reader → openStream.exec s = (.error (.illegalState "READER"),s)
  noForm : LeavesBody bodyParams s ∧ LeavesBody allParams s

theorem bodySettled_of_mode {s : Request × E} {mode : Body.Mode} {charset : Charset} (chosen : s.1.body.mode = mode)
    (busy : mode ≠ .idle) (same : mode = .reader → s.1.body.decoder.charset = charset) : BodySettled mode charset s where
  chosen := chosen
  charset := same
  noReader stream := openReader_of_stream (chosen.trans stream)
  noStream reader := openStream_of_reader (chosen.trans reader)
  noForm := ⟨bodyParams_leavesBody (chosen ▸ busy),allParams_leavesBody (chosen ▸ busy)⟩

theorem settles_of_chosen {states : List (Request × E)} (chain : states.IsChain fun s t => Chosen s.1.body t.1.body) :
    ∃ early late mode charset, states = early ++ late ∧ mode ≠ .idle ∧ (∀ s ∈ early, s.1.body.mode = .idle) ∧
      ∀ s ∈ late, BodySettled mode charset s := by
  -- By induction on the states passed: the mode is idle in the first of them, and settled in the
  -- others.
  induction states with
  | nil => exact ⟨[],[],.stream,.utf8,rfl,nofun,List.forall_mem_nil _,List.forall_mem_nil _⟩
  | cons s rest ih =>
    obtain ⟨early,late,mode,charset,parts,chosen,idle,settled⟩ := ih chain.tail
    subst parts
    by_cases still : s.1.body.mode = .idle
    · refine ⟨s :: early,late,mode,charset,rfl,chosen,?_,settled⟩
      exact List.forall_mem_cons.mpr ⟨still,idle⟩
    · cases early with
      | cons first early =>
        have kept : first.1.body.mode = s.1.body.mode := (List.isChain_cons_cons.mp chain).1.mode still
        exact absurd (kept.symm.trans (idle first List.mem_cons_self)) still
      | nil =>
        cases late with
        | nil =>
          have only : BodySettled s.1.body.mode s.1.body.decoder.charset s := bodySettled_of_mode rfl still fun _ => rfl
          exact ⟨[],[s],_,_,rfl,still,List.forall_mem_nil _,List.forall_mem_singleton.mpr only⟩
        | cons next late =>
          have first : Chosen s.1.body next.1.body := (List.isChain_cons_cons.mp chain).1
          have same : s.1.body.mode = mode := (first.mode still).symm.trans (settled next List.mem_cons_self).chosen
          have here : BodySettled mode charset s := by
            refine bodySettled_of_mode same chosen fun reader => ?_
            exact (first.charset (same.trans reader)).symm.trans ((settled next List.mem_cons_self).charset reader)
          exact ⟨[],s :: next :: late,mode,charset,rfl,chosen,List.forall_mem_nil _,List.forall_mem_cons.mpr ⟨here,settled⟩⟩

end Refusals

/-- Of the states that a request passes the first ones have a body in no mode yet, and all others one
in the same mode. -/
theorem body_mode_final {E : Type} [UriGrammar] [ExternalSources E] [SessionStores E] [LoginServices E] [AttributeObservers E]
    [ResponseControl E] {states : List (Request × E)} (course : states.IsChain (Proceeds Operation.UsesBody)) :
    (∃ early late mode charset, states = early ++ late ∧ mode ≠ .idle ∧ (∀ s ∈ early, s.1.body.mode = .idle) ∧
      ∀ s ∈ late, BodySettled mode charset s) ∧
    (∀ s ∈ states, s.1.body.mode ≠ .reader → ∀ {α : Type} (read : Input × E → Except Failure α × (Input × E)),
      Input.asReader read (s.1.body,s.2) = (.error (.illegalState "reader mode not selected"),(s.1.body,s.2))) ∧
    ∀ s ∈ states, (openReader.exec s).1 = .ok () → ∀ later, Proceeds Operation.UsesBody (openReader.exec s).2 later →
      later.1.body.mode = .reader ∧ later.1.body.decoder.charset = (openReader.exec s).2.1.body.decoder.charset := by
  refine ⟨settles_of_chosen (course.imp fun _ _ on => on.chosen),fun s _ other => asReader_refused other,?_⟩
  intro s _ opened later on
  have reader := openReader_mode opened
  exact ⟨(on.chosen.mode (by rw [reader]; nofun)).trans reader,on.chosen.charset reader⟩

open CommonGrammar

/-- A form that is larger than allowed, which is found out as it is read. -/
def formVisit : Request × Scripted.Environment Unit :=
  ({ settings := { maxFormSize := 2 }
     method := some "POST"
     contentTypeOverride := some formType
     body := (Body.Input.new 30000).attach (.memory (some [0x61,0x3D,0x31])) true },
    { kept := () })

def includedForm : Request × Scripted.Environment Unit :=
  ({ formVisit.1 with kind := .include }, ResponseControl.markIncluding formVisit.2)

def lateReader : Program (Scripted.Environment Unit) :=
  .perform (.setEncoding "iso-8859-1") fun _ _ => .perform .openReader fun _ _ => .done (.ok ())

/-- In an include the parameters are asked for, in vain. But from then on the body is a stream. -/
theorem formVisit_mode : ∃ asked later, asked = Operation.run .readParams includedForm ∧
    later = (lateReader.run asked).2 ∧
    [formVisit, includedForm, asked, later].IsChain (Proceeds Operation.UsesBody) ∧
    formVisit.1.body.mode = .idle ∧ later.1.body.mode = .stream ∧
    openReader.exec later = (.error (.illegalState "STREAMED"),later) := by
  have entered : (named "page").enter .inclusion formVisit = .ok includedForm := rfl
  have course : [formVisit,includedForm,Operation.run .readParams includedForm,
      (lateReader.run (Operation.run .readParams includedForm)).2].IsChain (Proceeds Operation.UsesBody) := by
    have fine : Operation.UsesBody (E := Scripted.Environment Unit) .readParams := trivial
    have asks : Proceeds Operation.UsesBody includedForm (Operation.run .readParams includedForm) :=
      .performed fine .here
    have tries : Proceeds Operation.UsesBody _ (lateReader.run (Operation.run .readParams includedForm)).2 :=
      .run .here ⟨trivial,trivial,trivial⟩
    simpa using ⟨.called .here entered,asks,tries⟩
  have mode : (lateReader.run (Operation.run .readParams includedForm)).2.1.body.mode = .stream := by decide +kernel
  refine ⟨_,_,rfl,rfl,course,rfl,mode,?_⟩
  obtain ⟨⟨early,late,settledMode,charset,parts,busy,idle,settled⟩,-⟩ := body_mode_final course
  have last : (lateReader.run (Operation.run .readParams includedForm)).2 ∈ early ++ late := by simp [← parts]
  rcases List.mem_append.mp last with mem | mem
  · cases (idle _ mem).symm.trans mode
  · exact (settled _ mem).noReader ((settled _ mem).chosen.symm.trans mode)

end Request

end HttpRequest
