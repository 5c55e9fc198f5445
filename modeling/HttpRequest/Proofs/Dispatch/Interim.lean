import HttpRequest.Proofs.Dispatch.Passage
import HttpRequest.Scripted.Collaborators

/-! # The client that waits to go on

A client may send the head of a request and wait with the body until it is let go on. It is let go on
when the body is first asked for, which the stream, the reader and a form all do, in whatever order and
inside of whatever dispatch. An input writes down each call of its source that lets the client go on, with
what is at hand at that moment. From when a source is attached there is at most one: only if the client
waits, while no bytes have come, and before any of them was given out.
-/
namespace HttpRequest

open Body (ExternalSources Input Source SourceKey)
open Request DispatchTarget

/-- The source that is told to let the client go on. -/
def Notice.continued? : Notice → Option SourceKey
  | continued source => some source
  | notified _ _ => none

namespace Transcript
variable {E : Type}

def continued (t : Transcript E) : List SourceKey :=
  t.notices.filterMap Notice.continued?

def SameContinued (before after : Transcript E) : Prop :=
  after.continued = before.continued

variable {t t' : Transcript E}

theorem SameContinued.trans {a b c : Transcript E} (first : SameContinued a b) (second : SameContinued b c) :
    SameContinued a c :=
  Eq.trans second first

theorem sameContinued_of_notices (same : t'.notices = t.notices) : SameContinued t t' :=
  congrArg (List.filterMap _) same

theorem sameContinued_of_drawn [ExternalSources E] (drawn : Body.Drawn t t') : SameContinued t t' := by
  cases drawn <;> rfl

theorem continued_told (notice : Notice) (t : Transcript E) :
    (t.told notice).continued = t.continued ++ notice.continued?.toList :=
  filterMap_told Notice.continued? notice t

theorem sameContinued_notify [AttributeObservers E] (observer : ObserverKey) (event : AttributeEvent) (t : Transcript E) :
    SameContinued t (AttributeObservers.notify observer event t) :=
  (continued_told (.notified observer event) t).trans (List.append_nil t.continued)

end Transcript

open Transcript (SameContinued)

namespace Body

namespace Input

theorem interim?_eq_some {i : Input} {call : Interim} (due : i.interim? = some call) :
    i.expectsContinue = true ∧ i.buffer.hasContent = false ∧
      ∃ source, i.source = some source ∧ call = ⟨source,i.buffer,i.consumed⟩ := by
  unfold interim? at due
  split at due
  next waits =>
    simp only [Bool.and_eq_true, Bool.not_eq_true'] at waits
    obtain ⟨source,reads,rfl⟩ := Option.map_eq_some_iff.mp due
    exact ⟨waits.1,waits.2,source,reads,rfl⟩
  · cases due

theorem leave_continued {E : Type} [ExternalSources E] (s : Input × Transcript E) :
    (leave s).2.continued = s.2.continued ++ s.1.interim?.toList.filterMap (·.source.key?) := by
  rcases leave_cases s with ⟨same,silent⟩ | ⟨key,same,told⟩
  · rw [same, silent, List.append_nil]
  · rw [same, told]
    exact s.2.continued_told (.continued key)

end Input

section Calls

variable {E : Type} {source : Source} {expects : Bool} {earlier : List SourceKey} {i j : Input} {t t' : Transcript E}

/-- The calls written down since a source was attached, for a client that waits or does not. As long as it
waits no byte was given out. -/
structure Timely (source : Source) (expects : Bool) (earlier : List SourceKey) (s : Input × Transcript E) : Prop where
  /-- A call uses up the expectation. -/
  once : s.1.interims.length + s.1.expectsContinue.toNat ≤ expects.toNat
  unread : s.1.expectsContinue = true → s.1.consumed = 0
  reads : s.1.handle? = source.handle?
  calls : ∀ call ∈ s.1.interims,
    call.source.handle? = source.handle? ∧ call.buffer.hasContent = false ∧ call.consumed = 0
  told : s.2.continued = earlier ++ s.1.interims.filterMap (·.source.key?)

theorem Timely.congr (h : Timely source expects earlier (i,t)) (consumed : j.consumed = i.consumed)
    (same : j.expectsContinue = i.expectsContinue) (interims : j.interims = i.interims) (handle : j.handle? = i.handle?)
    (silent : SameContinued t t') : Timely source expects earlier (j,t') := by
  refine ⟨?_,?_,handle.trans h.reads,?_,?_⟩
  · rw [interims, same]
    exact h.once
  · rw [same, consumed]
    exact h.unread
  · rw [interims]
    exact h.calls
  · rw [interims]
    exact Eq.trans silent h.told

theorem Timely.gave (h : Timely source expects earlier (i,t)) (n : Nat) :
    Timely source expects earlier ((Input.readBuffered n i).2,t) := by
  unfold Input.readBuffered
  split
  · exact ⟨(Nat.le_add_right _ _).trans h.once,nofun,h.reads,h.calls,h.told⟩
  · split <;> exact h.congr rfl rfl rfl rfl rfl

variable [ExternalSources E]

theorem Timely.sent (h : Timely source expects earlier (i,t)) :
    Timely source expects earlier (Input.sendContinue (i,t)).2 := by
  have told : (Input.leave (i,t)).2.continued =
      earlier ++ (i.interims ++ i.interim?.toList).filterMap (·.source.key?) := by
    rw [Input.leave_continued, h.told, List.filterMap_append, List.append_assoc]
  rw [Input.sendContinue_eq]
  refine ⟨?_,nofun,h.reads,?_,told⟩
  · have once := h.once
    dsimp only at once ⊢
    rw [List.length_append]
    cases due : i.interim? with
    | none => exact (Nat.le_add_right _ _).trans once
    | some call =>
      rw [(Input.interim?_eq_some due).1] at once
      exact once
  · intro call mem
    rcases List.mem_append.mp mem with before | now
    · exact h.calls call before
    · obtain ⟨waits,empty,own,reads,rfl⟩ := Input.interim?_eq_some (Option.mem_toList.mp now)
      have handle := h.reads
      rw [Input.handle?, reads] at handle
      exact ⟨handle,empty,h.unread waits⟩

theorem moves_timely : Moves (E := Transcript E) fun s t =>
    Timely source expects earlier s → Timely source expects earlier t where
  trans first second := second ∘ first
  quiet _ quiet h := h.congr quiet.consumed quiet.expectsContinue quiet.interims quiet.wire.handle rfl
  choice _ _ _ _ h := h.congr rfl rfl rfl rfl rfl
  give n _ _ h := h.gave n
  draw _ _ _ drawn h := h.congr rfl rfl rfl rfl (Transcript.sameContinued_of_drawn drawn)
  sendContinue _ h := h.sent

/-- The operation attaches no source, and it tells none to let the client go on but the one that is read. -/
def Operation.KeepsSource : Operation (Transcript E) → Prop
  | attach _ _ => False
  | useEnvironment change => ∀ t, SameContinued t (change t)
  | _ => True

theorem timely_apply {op : Operation (Transcript E)} (keeps : op.KeepsSource) {s : Input × Transcript E}
    (h : Timely source expects earlier s) : Timely source expects earlier (op.apply s) := by
  cases op with
  | attach source expects => exact keeps.elim
  | useEnvironment change => exact h.congr rfl rfl rfl rfl (keeps s.2)
  | _ => exact moves_timely.apply (by simp) (by simp) s h

end Calls

end Body

open Body (Timely)

namespace Operation

variable {E : Type} [ExternalSources E]

/-- The operation attaches no source to the body. It uses the body by operations that attach none and by
polls whose callbacks do the same, and tells no source to let the client go on but the one that is read. -/
def KeepsSource : Operation (Transcript E) → Prop
  | setSource _ => False
  | useBody change => Body.UseOf Body.Operation.KeepsSource change
  | useEnvironment change => ∀ t, SameContinued t (change t)
  | _ => True

variable [SessionStores E] [LoginServices E] [AttributeObservers E]

theorem run_timely {source : Source} {expects : Bool} {earlier : List SourceKey} {op : Operation (Transcript E)}
    (keeps : op.KeepsSource) (s : Request × Transcript E) (h : Timely source expects earlier (s.1.body,s.2)) :
    Timely source expects earlier ((op.run s).1.body,(op.run s).2) := by
  refine op.run_moves Body.moves_timely s ?_ ?_ (fun rests h => h.congr rfl rfl rfl rfl ?_) h
  · rintro source rfl
    exact keeps.elim
  · rintro change rfl
    exact Body.moves_timely.useOf (fun _ keeps _ => Body.timely_apply keeps) keeps (s.1.body,s.2)
  · have wills : op.WillsWithin SameContinued := by
      cases op with
      | useBody => cases rests
      | useEnvironment change => exact keeps
      | _ => trivial
    have looks : op.looks ≠ true := fun looks =>
      Bool.false_ne_true (rests.symm.trans (touchesBody_of_looks looks))
    exact op.run_environment_within (Q := SameContinued) (fun _ => rfl) .trans wills (absurd · looks)
      (fun _ _ _ _ => rfl) (fun _ _ _ => rfl) (fun _ => Transcript.sameContinued_notify)
      (fun _ _ _ asked => Transcript.sameContinued_of_notices (Transcript.notices_of_asked asked)) s

end Operation

section Course

variable {E : Type} [UriGrammar] [ExternalSources E] [SessionStores E] [LoginServices E] [AttributeObservers E]
  [ResponseControl E] {s t : Request × Transcript E}

theorem carries_timely {source : Source} {expects : Bool} {earlier : List SourceKey} :
    Carries (E := Transcript E) Operation.KeepsSource fun s t =>
      Timely source expects earlier (s.1.body,s.2) → Timely source expects earlier (t.1.body,t.2) :=
  carries_body (R := fun s t => Timely source expects earlier s → Timely source expects earlier t) (fun _ h => h)
    (fun first second h => second (first h)) (fun s keeps => Operation.run_timely keeps s) fun _ _ _ responded h =>
      h.congr rfl rfl rfl rfl (Transcript.sameContinued_of_notices (Transcript.notices_of_responded responded))

/-- The calls that let a client go on: of the source it waits with, one at most and never late. -/
structure Prompt (source : Source) (expects : Bool) (calls : List Body.Interim) : Prop where
  own : ∀ call ∈ calls, call.source.handle? = source.handle?
  once : calls.length ≤ 1
  expected : calls ≠ [] → expects = true
  empty : ∀ call ∈ calls, call.buffer.hasContent = false
  unread : ∀ call ∈ calls, call.consumed = 0

omit [UriGrammar] [ExternalSources E] [SessionStores E] [LoginServices E] [AttributeObservers E] [ResponseControl E] in
theorem prompt_of_timely {source : Source} {expects : Bool} {earlier : List SourceKey} {s : Input × Transcript E}
    (h : Timely source expects earlier s) : Prompt source expects s.1.interims := by
  have most := (Nat.le_add_right _ _).trans h.once
  refine ⟨fun call mem => (h.calls call mem).1,most.trans expects.toNat_le,?_,fun call mem => (h.calls call mem).2.1,
    fun call mem => (h.calls call mem).2.2⟩
  intro called
  cases expects with
  | true => rfl
  | false => exact absurd (List.eq_nil_of_length_eq_zero (Nat.le_zero.mp most)) called

/-- A source is attached to an input that has given out no byte and called nobody, and no other source is
attached afterwards. Whatever is done with the request from then on, the calls written down until now are of
that source: at most one, only if the client waits, made while no bytes were at hand and before one was
given out. Sources outside are told of these calls and of no others. -/
theorem continued_once {source : Source} (unread : s.1.body.consumed = 0) (uncalled : s.1.body.interims = [])
    (on : Proceeds Operation.KeepsSource ((Operation.setSource source).run s) t) :
    Prompt source s.1.expectsContinue t.1.body.interims ∧
    t.2.continued = s.2.continued ++ t.1.body.interims.filterMap (·.source.key?) := by
  have start : Timely source s.1.expectsContinue s.2.continued ((s.1.withSource source).body,s.2) := by
    refine ⟨?_,fun _ => unread,rfl,?_,?_⟩
    · show s.1.body.interims.length + _ ≤ _
      rw [uncalled]
      exact (Nat.zero_add _).le
    · show ∀ call ∈ s.1.body.interims, _
      rw [uncalled]
      exact List.forall_mem_nil _
    · show _ = _ ++ s.1.body.interims.filterMap _
      rw [uncalled]
      exact (List.append_nil _).symm
  have timely := carries_timely.proceeds on start
  exact ⟨prompt_of_timely timely,timely.told⟩

end Course

open CommonGrammar

def upload : Request × Transcript (Scripted.Environment Unit) :=
  ({ headers := ⟨[("expect",octetsOf "100-Continue")]⟩
     method := some "POST"
     contentTypeOverride := some formType
     body := .new 30000 },
    { env := { kept := (), scripts := #[⟨"client",[[.bytes (octetsOf "a=1")],[.finished]],[],false,none⟩] } })

theorem upload_expectsContinue : upload.1.expectsContinue = true := by
  have lower : lowerAscii "expect" = "expect" := by
    rw [← String.toList_inj]
    simp [lowerAscii]
  simp only [expectsContinue, header?, Headers.text?, Headers.values, upload, lower]
  decide

def readsTwo : Body.Callbacks (Transcript (Scripted.Environment Unit)) where
  onData _ := .of fun s => (.ok (),(Body.Operation.read 2).apply s)
  onEnd _ := .of fun s => (.ok (),s)
  onFailure _ _ t := t

/-- The stream is opened in an include, and read by a listener. After that it is opened again, the client
let go on by hand, the form asked for, and the rest of the body given up. -/
def uploadReader : Program (Transcript (Scripted.Environment Unit)) :=
  .dispatch .inclusion (.named "inner")
    (fun _ => .perform .openStream fun _ _ => .perform (.setListener ⟨0⟩) fun _ _ =>
      .perform (.useBody fun s => (Input.onReadPossible readsTwo s).2) fun _ _ => .done (.panicked "inner"))
    fun _ _ _ => .perform .openStream fun _ _ => .perform (.useBody Body.Operation.sendContinue.apply) fun _ _ =>
      .perform .readForm fun _ _ => .perform (.useBody (Body.Operation.fail .timeout).apply) fun _ _ => .done (.ok ())

theorem uploadReader_continued : ∃ start t call, start = (Operation.setSource (.external ⟨0⟩)).run upload ∧
    t = (uploadReader.run start).2 ∧ Proceeds Operation.KeepsSource start t ∧ t.1.body.interims = [call] ∧
    call.source.handle? = some (.external ⟨0⟩) ∧ call.buffer.hasContent = false ∧ call.consumed = 0 ∧
    t.2.continued = [⟨0⟩] ∧ t.1.body.consumed = 2 := by
  obtain ⟨start,isStart⟩ : ∃ start, start = (Operation.setSource (.external ⟨0⟩)).run upload := ⟨_,rfl⟩
  have attached : start = ({ upload.1 with body := (Input.new 30000).attach (.external ⟨0⟩) true },upload.2) := by
    rw [isStart, ← upload_expectsContinue]
    rfl
  have reads : Body.UseOf Body.Operation.KeepsSource fun s => (Input.onReadPossible readsTwo s).2 := by
    refine .poll (fun l => ?_) (fun _ => .nothing) fun _ _ _ => rfl
    show Body.UseOf Body.Operation.KeepsSource (Body.Operation.read 2).apply
    exact .operation trivial
  have stays : uploadReader.Stays Operation.KeepsSource start :=
    ⟨fun _ _ => ⟨trivial,trivial,reads,trivial⟩,trivial,.operation trivial,trivial,.operation trivial,trivial⟩
  have on : Proceeds Operation.KeepsSource start (uploadReader.run start).2 := .run .here stays
  have told : (uploadReader.run start).2.2.continued = [⟨0⟩] := by
    rw [attached]
    decide +kernel
  have read : (uploadReader.run start).2.1.body.consumed = 2 := by
    rw [attached]
    decide +kernel
  rw [isStart] at on
  obtain ⟨prompt,listed⟩ := continued_once rfl rfl on
  have called : (uploadReader.run ((Operation.setSource (.external ⟨0⟩)).run upload)).2.1.body.interims ≠ [] := by
    intro uncalled
    rw [uncalled, ← isStart, told] at listed
    exact absurd listed (List.cons_ne_nil _ _)
  obtain ⟨call,only⟩ := List.length_eq_one_iff.mp (Nat.le_antisymm prompt.once (List.length_pos_iff.mpr called))
  have mem : call ∈ [call] := List.mem_cons_self
  rw [← only] at mem
  subst isStart
  exact ⟨_,_,call,rfl,rfl,on,only,prompt.own call mem,prompt.empty call mem,prompt.unread call mem,told,read⟩

end HttpRequest
