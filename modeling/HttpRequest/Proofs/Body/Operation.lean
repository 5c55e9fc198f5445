import HttpRequest.Body.Reader
import HttpRequest.Proofs.Body.Arrival

/-! # Operations on an input

All that the library can do with an input or its source between two requests, other than to poll it.
An operation that does not read takes nothing from whoever reads characters: the decoder is as it was,
no byte was given out, and what has ended stays so.
-/
namespace HttpRequest.Body

open Input

inductive Operation (E : Type) where
  | attach (source : Source) (expectsContinue : Bool)
  | setTimeout (milliseconds : Nat)
  | enterStream
  | enterReader (charset : Charset)
  | sendContinue
  | requestMore
  | settle
  | watch
  | setListener (l : ListenerKey)
  | isReady
  | fail (f : Failure)
  | read (n : Nat)
  | readRest
  | readReady (size : Nat)
  | skipRest
  | readText
  | readLine
  | readAll
  | feed (id : ChannelId) (f : Feed)
  | addFeeder (id : ChannelId)
  | dropFeeder (id : ChannelId)
  | raiseFrom (key : SourceKey)
  | useEnvironment (change : E → E)

def Operation.apply {E : Type} [ExternalSources E] : Operation E → Input × E → Input × E
  | attach source expectsContinue, (i, e) => (i.attach source expectsContinue, e)
  | setTimeout timeout, (i, e) => ({ i with timeout }, e)
  | enterStream, (i, e) => (i.enterStream.toOption.getD i, e)
  | enterReader charset, (i, e) => ((i.enterReader charset).toOption.getD i, e)
  | sendContinue, s => (Input.sendContinue s).2
  | requestMore, s => Input.requestMore s
  | settle, s => (Input.settle s).2
  | watch, s => Input.watch s
  | setListener l, (i, e) => ((i.setListener l).toOption.getD i, e)
  | isReady, s => (Input.isReady s).2
  | fail f, (i, e) => ((i.fail f).2, e)
  | read n, s => (Input.read n s).2
  | readRest, s => (Input.readRest s).2
  | readReady size, s => (Input.readReady size s).2
  | skipRest, s => (Input.skipRest s).2
  | readText, s => (asReader Input.readText s).2
  | readLine, s => (asReader Input.readLine s).2
  | readAll, s => (asReader Input.readAll s).2
  | feed id f, (i, e) => ((i.feed id f).2, e)
  | addFeeder id, (i, e) => (i.addFeeder id, e)
  | dropFeeder id, (i, e) => (i.dropFeeder id, e)
  | raiseFrom key, (i, e) => (i.raiseFrom key, e)
  | useEnvironment change, (i, e) => (i, change e)

def Operation.reads {E : Type} : Operation E → Bool
  | read _ | readRest | readReady _ | skipRest | readText | readLine | readAll => true
  | _ => false

/-- For whoever reads characters nothing was done. -/
structure Undisturbed (before after : Input) : Prop where
  mode : after.mode = before.mode
  decoder : after.decoder = before.decoder
  consumed : after.consumed = before.consumed
  finished : before.isFinished = true → after.isFinished = true

namespace Undisturbed

theorem refl (i : Input) : Undisturbed i i := ⟨rfl,rfl,rfl,id⟩

theorem trans {a b c : Input} (first : Undisturbed a b) (second : Undisturbed b c) : Undisturbed a c :=
  ⟨second.mode.trans first.mode,second.decoder.trans first.decoder,second.consumed.trans first.consumed,
    second.finished ∘ first.finished⟩

end Undisturbed

theorem settled_of_isFinished {i : Input} (finished : i.isFinished = true) : i.settled = true := by
  simp [settled, (Bool.and_eq_true_iff.mp finished).1]

section Operations
variable {E : Type} [ExternalSources E]

theorem requestMore_undisturbed (s : Input × E) : Undisturbed s.1 (requestMore s).1 := by
  obtain ⟨i,e⟩ := s
  unfold requestMore
  dsimp only
  split
  · exact .refl i
  next unsettled =>
    cases i.source <;> exact ⟨rfl,rfl,rfl,fun finished => absurd (settled_of_isFinished finished) unsettled⟩

theorem settleWithin_undisturbed (n : Nat) (s : Input × E) : Undisturbed s.1 (settleWithin n s).2.1 := by
  induction n generalizing s with
  | zero => exact .refl s.1
  | succ n ih =>
    have asked := requestMore_undisturbed s
    unfold settleWithin
    split
    next i e more =>
      rw [more] at asked
      split
      · exact asked
      · split
        · exact asked
        · split
          · exact asked.trans ⟨rfl,rfl,rfl,id⟩
          next source e waited =>
            have same : Undisturbed i { i with source := some source } := ⟨rfl,rfl,rfl,id⟩
            exact (asked.trans same).trans (ih ({ i with source := some source },e))

theorem watch_undisturbed (s : Input × E) : Undisturbed s.1 (watch s).1 := by
  obtain ⟨i,e⟩ := s
  unfold watch
  dsimp only
  cases i.source <;> exact ⟨rfl,rfl,rfl,id⟩

theorem isReady_undisturbed (s : Input × E) : Undisturbed s.1 (isReady s).2.1 := by
  unfold isReady
  split
  · exact .refl s.1
  · dsimp only
    split
    · exact requestMore_undisturbed s
    · exact (requestMore_undisturbed s).trans (watch_undisturbed _)

/-- What comes of letting the client go on. The source is told only if the client waits for it and
nothing has come. -/
def Input.leave (s : Input × E) : Except Failure Unit × E :=
  if s.1.expectsContinue && !s.1.buffer.hasContent then s.1.source.elim (.ok (),s.2) (·.sendContinue s.2)
  else (.ok (),s.2)

def Input.interim? (i : Input) : Option Interim :=
  if i.expectsContinue && !i.buffer.hasContent then i.source.map (⟨·,i.buffer,i.consumed⟩) else none

theorem Input.sendContinue_eq (s : Input × E) :
    sendContinue s = ((leave s).1,
      { s.1 with expectsContinue := false, interims := s.1.interims ++ s.1.interim?.toList },(leave s).2) := by
  obtain ⟨i,e⟩ := s
  unfold sendContinue leave interim?
  cases expects : i.expectsContinue with
  | false =>
    have same : { i with expectsContinue := false, interims := i.interims ++ [] } = i := by rw [← expects, List.append_nil]
    simp only [expects, Bool.not_false, if_true, Bool.false_and, Bool.false_eq_true, if_false, Option.toList_none, same]
  | true =>
    cases content : i.buffer.hasContent with
    | true =>
      simp only [expects, content, Bool.not_true, Bool.and_false, Bool.false_eq_true, if_false, if_true,
        Option.toList_none, List.append_nil]
    | false =>
      simp only [expects, content, Bool.not_true, Bool.not_false, Bool.and_self, Bool.false_eq_true, if_false, if_true]
      cases i.source with
      | none => simp only [Option.map_none, Option.toList_none, List.append_nil, Option.elim_none]
      | some source => rfl

/-- A source outside is called exactly when a call of one is written down. -/
theorem Input.leave_cases (s : Input × E) :
    ((leave s).2 = s.2 ∧ s.1.interim?.toList.filterMap (·.source.key?) = []) ∨
      ∃ key, (leave s).2 = (ExternalSources.sendContinue key s.2).2 ∧
        s.1.interim?.toList.filterMap (·.source.key?) = [key] := by
  unfold leave interim?
  split
  · cases s.1.source with
    | none => exact .inl ⟨rfl,rfl⟩
    | some source =>
      cases source with
      | memory content => exact .inl ⟨rfl,rfl⟩
      | channel c => exact .inl ⟨rfl,rfl⟩
      | external key => exact .inr ⟨key,rfl,rfl⟩
  · exact .inl ⟨rfl,rfl⟩

theorem sendContinue_undisturbed (s : Input × E) : Undisturbed s.1 (sendContinue s).2.1 := by
  rw [sendContinue_eq]
  exact ⟨rfl,rfl,rfl,id⟩

omit [ExternalSources E] in
theorem fail_undisturbed (i : Input) (f : Failure) : Undisturbed i (i.fail f).2 := by
  unfold Input.fail
  split
  · exact .refl i
  · refine ⟨rfl,rfl,rfl,fun finished => ?_⟩
    have ended : i.buffer.finished = true := (Bool.and_eq_true_iff.mp finished).1
    simp [isFinished, Buffer.clear, ended, Buffer.hasContent]

omit [ExternalSources E] in
theorem changeChannel_undisturbed (i : Input) (id : ChannelId) (f : Channel → Channel) :
    Undisturbed i (i.changeChannel id f) := by
  unfold changeChannel
  split
  · split
    · exact ⟨rfl,rfl,rfl,fun finished => finished⟩
    · exact .refl i
  · exact .refl i

omit [ExternalSources E] in
theorem feed_undisturbed (i : Input) (id : ChannelId) (f : Feed) : Undisturbed i (i.feed id f).2 := by
  unfold Input.feed
  split
  · split
    · exact ⟨rfl,rfl,rfl,fun finished => finished⟩
    · exact .refl i
  · exact .refl i

theorem Operation.apply_undisturbed (op : Operation E) (leaves : op.reads = false) {s : Input × E}
    (mode : s.1.mode = .reader) : Undisturbed s.1 (op.apply s).1 := by
  obtain ⟨i,e⟩ := s
  have mode : i.mode = .reader := mode
  cases op with
  | attach source expectsContinue => exact ⟨rfl,rfl,rfl,id⟩
  | setTimeout milliseconds => exact ⟨rfl,rfl,rfl,id⟩
  | enterStream =>
    simp only [apply, Input.enterStream, mode]
    exact .refl i
  | enterReader charset =>
    simp only [apply, Input.enterReader, mode]
    exact .refl i
  | sendContinue => exact sendContinue_undisturbed (i,e)
  | requestMore => exact requestMore_undisturbed (i,e)
  | settle => exact settleWithin_undisturbed _ (i,e)
  | watch => exact watch_undisturbed (i,e)
  | setListener l =>
    simp only [apply, Input.setListener]
    split
    · exact .refl i
    · split
      · exact .refl i
      · exact ⟨rfl,rfl,rfl,id⟩
  | isReady => exact isReady_undisturbed (i,e)
  | fail f => exact fail_undisturbed i f
  | feed id f => exact feed_undisturbed i id f
  | addFeeder id => exact changeChannel_undisturbed i id _
  | dropFeeder id => exact changeChannel_undisturbed i id _
  | raiseFrom key => exact ⟨rfl,rfl,rfl,id⟩
  | useEnvironment change => exact .refl i
  | _ => cases leaves

end Operations

end HttpRequest.Body
