import HttpRequest.Proofs.Body.Gather
import HttpRequest.Proofs.Body.Usage
import HttpRequest.Scripted.Collaborators

/-! # Reading a body as characters

Calls for a piece, for a line and for the rest may follow each other in any order, with anything that
does not read in between, and each of them may fail. Together they hand out the text of the body from
left to right. The invariant is that what has been handed out and what remains are that text, whatever
is still to come of the body: the bytes that were read are with the decoder, and all that a call does
is to read more of them and to take characters from the front.
-/
namespace HttpRequest.Body

open Input

inductive Answer where
  | text (piece : String)
  | none
  | failed (f : Failure)
deriving DecidableEq, Repr

namespace Answer

def ofResult : Except Failure (Option String) → Answer
  | .ok (some piece) => .text piece
  | .ok .none => .none
  | .error f => .failed f

def failure? : Answer → Option Failure
  | .failed f => some f
  | _ => .none

end Answer

/-- What a call answers when `left` remains of a text, and what remains after it. A failed call hands
out nothing, and nothing is only handed out when nothing remains. -/
inductive Hands : Call → Answer → (left after : List Char) → Prop where
  | chunk {piece rest : List Char} :
    piece ≠ [] → Hands .chunk (.text (String.ofList piece)) (piece ++ rest) rest
  | line {line text rest : List Char} :
    '\n' ∉ line → (line = text ++ ['\r'] ∨ line = text ∧ line.getLast? ≠ some '\r') →
      Hands .line (.text (String.ofList text)) (line ++ '\n' :: rest) rest
  | lastLine {line : List Char} :
    '\n' ∉ line → line ≠ [] → Hands .line (.text (String.ofList line)) line []
  | rest {left : List Char} : Hands .rest (.text (String.ofList left)) left []
  | none {c : Call} : c ≠ .rest → Hands c .none [] []
  | failed {c : Call} {f : Failure} {left : List Char} : Hands c (.failed f) left left

/-- Calls in turn take a text from left to right. -/
inductive Consumed (whole : List Char) : List (Call × Answer) → List Char → Prop where
  | nil : Consumed whole [] whole
  | snoc {answers : List (Call × Answer)} {c : Call} {a : Answer} {left after : List Char} :
    Consumed whole answers left → Hands c a left after → Consumed whole (answers ++ [(c,a)]) after

/-- An answer that there is nothing more to come, or with all that was left. -/
def isFinal : Call × Answer → Bool
  | (_, .none) | (.rest, .text _) => true
  | _ => false

section Calls
variable {E : Type} {s : Input × E}

theorem asReader_of_reader {α : Type} (mode : s.1.mode = .reader)
    (f : Input × E → Except Failure α × (Input × E)) : asReader f s = f s := by
  simp only [asReader, requireReader, mode, if_true]

theorem Gathered.Sound.remaining {sated : Decoder → Bool} {g : Gathered E} (h : g.Sound sated s)
    {more : Octets} (last : g.stop = .ended → more = []) :
    s.1.decoder.remaining (g.bytes ++ more) =
      g.state.1.decoder.text ++ g.state.1.decoder.later more := by
  rw [← Decoder.remaining_eq, Decoder.remaining_append, h.decoder]
  split
  next ended => rw [last ended, Decoder.remaining_finish, Decoder.remaining_nil]
  · rfl

theorem Gathered.Sound.nothing {sated : Decoder → Bool} {g : Gathered E} (h : g.Sound sated s)
    (ended : g.stop = .ended) : g.state.1.decoder.later [] = [] := by
  have finished : g.state.1.decoder = (s.1.decoder.feed g.bytes).finish := by rw [h.decoder, if_pos ended]
  have all := Decoder.remaining_finish (s.1.decoder.feed g.bytes)
  rw [Decoder.remaining_eq] at all
  rw [finished]
  exact List.append_right_eq_self.mp all

variable [ExternalSources E]

def Call.run (c : Call) (s : Input × E) : Answer × (Input × E) :=
  match c with
  | chunk => (.ofResult (asReader readText s).1, (asReader readText s).2)
  | line => (.ofResult (asReader readLine s).1, (asReader readLine s).2)
  | rest => (.ofResult ((asReader readAll s).1.map some), (asReader readAll s).2)

def Call.gathers (c : Call) (s : Input × E) : Gathered E :=
  gather c.enough (pieceBound s) s

def Stop.failure? : Stop → Option Failure
  | .refused f => some f
  | _ => none

omit [ExternalSources E] in
/-- How a call goes from what it gathered to its answer. -/
structure Gathered.Ends (g : Gathered E) (c : Call) (s : Input × E) (a : Answer) (t : Input × E) :
    Prop where
  state : ∃ decoder, t = ({ g.state.1 with decoder },g.state.2)
  hands (more : Octets) : (g.stop = .ended → more = []) →
    Hands c a (s.1.decoder.remaining (g.bytes ++ more)) (t.1.decoder.remaining more)
  failure : g.stop ≠ .exhausted → a.failure? = g.stop.failure?
  final : isFinal (c,a) = true → g.stop = .ended

section Conclusions
omit [ExternalSources E]
variable {g : Gathered E} {c : Call}

theorem Gathered.Sound.fails (h : g.Sound c.enough s) {f : Failure}
    (refused : g.stop = .refused f ∨ g.stop = .exhausted) : g.Ends c s (.failed f) g.state := by
  refine ⟨⟨g.state.1.decoder,rfl⟩,?_,?_,by cases c <;> nofun⟩
  · intro more last
    rw [h.remaining last, ← Decoder.remaining_eq]
    exact .failed
  · intro going
    rw [refused.resolve_right going]
    rfl

theorem Gathered.Sound.takes (h : g.Sound c.enough s) (stop : g.stop = .ended)
    (hands : Hands c (.text (takeText g.state).1) g.state.1.decoder.text []) :
    g.Ends c s (.text (takeText g.state).1) (takeText g.state).2 := by
  refine ⟨⟨_,rfl⟩,?_,fun _ => by rw [stop]; rfl,fun _ => stop⟩
  intro more last
  have after : (takeText g.state).2.1.decoder.remaining [] = [] := h.nothing stop
  rw [h.remaining last, last stop, h.nothing stop, after, List.append_nil]
  exact hands

theorem Gathered.Sound.finds_nothing (h : g.Sound c.enough s) (stop : g.stop = .ended) (part : c ≠ .rest)
    (empty : g.state.1.decoder.text = []) {t : Input × E}
    (same : t = ({ g.state.1 with decoder := { g.state.1.decoder with text := [] } },g.state.2)) :
    g.Ends c s .none t := by
  refine ⟨⟨_,same⟩,?_,fun _ => by rw [stop]; rfl,fun _ => stop⟩
  intro more last
  have after : t.1.decoder.remaining [] = [] := by
    rw [same]
    exact h.nothing stop
  rw [h.remaining last, last stop, h.nothing stop, after, empty]
  exact .none part

theorem Gathered.Sound.concludes {α : Type} (h : g.Sound c.enough s) (shown : α → Option String)
    {enough ended : Input × E → α × (Input × E)}
    (atEnough : g.stop = .enough →
      g.Ends c s (.ofResult (.ok (shown (enough g.state).1))) (enough g.state).2)
    (atEnd : g.stop = .ended → g.Ends c s (.ofResult (.ok (shown (ended g.state).1))) (ended g.state).2) :
    g.Ends c s (.ofResult ((g.conclude enough ended).1.map shown)) (g.conclude enough ended).2 := by
  unfold Gathered.conclude
  cases stop : g.stop with
  | enough => exact atEnough stop
  | ended => exact atEnd stop
  | refused f => exact h.fails (.inl stop)
  | exhausted => exact h.fails (.inr stop)

end Conclusions

theorem chunk_ends (mode : s.1.mode = .reader) :
    (Call.chunk.gathers s).Ends .chunk s (Call.chunk.run s).1 (Call.chunk.run s).2 := by
  have sound : (Call.chunk.gathers s).Sound Call.chunk.enough s := gather_sound _ s
  have read : readText s = (Call.chunk.gathers s).conclude _ _ := readTextWithin_eq (pieceBound s) s
  simp only [Call.run, asReader_of_reader mode, read]
  generalize Call.chunk.gathers s = g at sound
  have unmapped : ∀ r : Except Failure (Option String), r.map id = r := congrFun Except.map_id
  rw [← unmapped (g.conclude _ _).1]
  refine sound.concludes id (fun stop => ?_) fun stop => ?_
  · have waiting : g.state.1.decoder.text ≠ [] := by
      have holds := sound.enough stop
      rw [sound.decoder, if_neg (by simp [stop])]
      simpa [Call.enough] using holds
    refine ⟨⟨_,rfl⟩,?_,fun _ => by rw [stop]; rfl,fun claims => absurd claims Bool.false_ne_true⟩
    intro more last
    rw [sound.remaining last]
    exact .chunk waiting
  · split
    next empty =>
      have empty : g.state.1.decoder.text = [] := List.isEmpty_iff.mp empty
      refine sound.finds_nothing stop (by decide) empty ?_
      rw [← empty]
    next waiting =>
      refine sound.takes stop ?_
      have piece : Hands .chunk _ (g.state.1.decoder.text ++ []) [] := .chunk (mt List.isEmpty_iff.mpr waiting)
      rwa [List.append_nil] at piece

theorem line_ends (mode : s.1.mode = .reader) :
    (Call.line.gathers s).Ends .line s (Call.line.run s).1 (Call.line.run s).2 := by
  have sound : (Call.line.gathers s).Sound Call.line.enough s := gather_sound _ s
  have read : readLine s = (Call.line.gathers s).conclude _ _ := readLineWithin_eq (pieceBound s) s
  simp only [Call.run, asReader_of_reader mode, read]
  generalize Call.line.gathers s = g at sound
  have unmapped : ∀ r : Except Failure (Option String), r.map id = r := congrFun Except.map_id
  rw [← unmapped (g.conclude _ _).1]
  refine sound.concludes id (fun stop => ?_) fun stop => ?_
  · have waits : g.state.1.decoder.takeLine?.isSome = true := by
      have holds := sound.enough stop
      rwa [sound.decoder, if_neg (by simp [stop])]
    obtain ⟨⟨answer,decoder⟩,cut⟩ := Option.isSome_iff_exists.mp waits
    obtain ⟨line,rest,text,whole,rfl,rfl⟩ := Decoder.takeLine_some cut
    simp only [takeFirstLine, cut]
    refine ⟨⟨_,rfl⟩,?_,fun _ => by rw [stop]; rfl,fun claims => absurd claims Bool.false_ne_true⟩
    intro more last
    rw [sound.remaining last, text, Decoder.remaining_eq, List.append_assoc]
    exact .line whole (Decoder.dropReturn_eq line)
  · have unbroken : '\n' ∉ g.state.1.decoder.text := by
      have short : (s.1.decoder.feed g.bytes).takeLine? = none := by
        simpa [Call.enough] using sound.short stop
      rw [sound.decoder, if_pos stop]
      exact Decoder.finish_no_newline (Decoder.takeLine_none short)
    dsimp only
    split
    next empty =>
      have empty : g.state.1.decoder.text = [] := by simpa [takeText, Decoder.takeText] using empty
      exact sound.finds_nothing stop (by decide) empty rfl
    next waiting =>
      have waiting : g.state.1.decoder.text ≠ [] := by simpa [takeText, Decoder.takeText] using waiting
      exact sound.takes stop (.lastLine unbroken waiting)

theorem rest_ends (mode : s.1.mode = .reader) :
    (Call.rest.gathers s).Ends .rest s (Call.rest.run s).1 (Call.rest.run s).2 := by
  have sound : (Call.rest.gathers s).Sound Call.rest.enough s := gather_sound _ s
  have read : readAll s = (Call.rest.gathers s).conclude _ _ := readAllWithin_eq (pieceBound s) s
  simp only [Call.run, asReader_of_reader mode, read]
  generalize Call.rest.gathers s = g at sound
  exact sound.concludes some (fun stop => absurd (sound.enough stop) nofun) fun stop =>
    sound.takes stop .rest

theorem Call.run_ends (c : Call) (mode : s.1.mode = .reader) :
    (c.gathers s).Ends c s (c.run s).1 (c.run s).2 := by
  cases c with
  | chunk => exact chunk_ends mode
  | line => exact line_ends mode
  | rest => exact rest_ends mode

end Calls

/-- What is written down while characters are read: the bytes that went to the decoder and whether they
came to an end, the failures of reads, and the answers to the calls. -/
structure Ledger where
  read : Octets := []
  ended : Bool := false
  refusals : List Failure := []
  answers : List (Call × Answer) := []
  bypassed : Bool := false

def Operation.call? {E : Type} : Operation E → Option Call
  | readText => some .chunk
  | readLine => some .line
  | readAll => some .rest
  | _ => none

section Ledgers
variable {E : Type} [ExternalSources E]

def Ledger.enter (ledger : Ledger) (c : Call) (s : Input × E) : Ledger :=
  { ledger with
    read := ledger.read ++ (c.gathers s).bytes
    ended := ledger.ended || (c.gathers s).stop = .ended
    refusals := ledger.refusals ++ (c.gathers s).stop.failure?.toList
    answers := ledger.answers ++ [(c, (c.run s).1)] }

def readings : Observer E Ledger where
  act op s ledger :=
    match op.call? with
    | some c => ledger.enter c s
    | none => { ledger with bypassed := ledger.bypassed || op.reads }
  look _ ledger := ledger
  endFailed _ _ ledger := ledger
  told _ ledger := ledger

def opened (timeout : Nat) (source : Source) (expectsContinue : Bool) (charset : Charset) (e : E) :
    Input × Observed E Ledger :=
  let attached := (Input.new timeout).attach source expectsContinue
  (((Operation.enterReader charset).apply (attached, e)).1, ⟨e, {}⟩)

/-- Whatever is still to come of the body, the answers have taken its text up to what remains. -/
structure Perused (E : Type) [ExternalSources E] (charset : Charset) (i : Input) (ledger : Ledger) :
    Prop where
  mode : i.mode = .reader
  consumed : i.consumed = ledger.read.length
  finished : ledger.ended = true → i.isFinished = true
  remains (more : Octets) : (ledger.ended = true → more = []) →
    Consumed (Decoder.remaining { charset } (ledger.read ++ more)) ledger.answers (i.decoder.remaining more)
  refusals : BoundedSources E → ledger.answers.filterMap (·.2.failure?) = ledger.refusals
  final : ∀ answer ∈ ledger.answers, isFinal answer = true → ledger.ended = true

variable {charset : Charset} {ledger : Ledger}

theorem Perused.undisturbed {i j : Input} (h : Perused E charset i ledger) (same : Undisturbed i j) :
    Perused E charset j ledger := by
  refine ⟨same.mode.trans h.mode,same.consumed.trans h.consumed,
    fun ended => same.finished (h.finished ended),?_,h.refusals,h.final⟩
  rw [same.decoder]
  exact h.remains

theorem Perused.call {s : Input × E} (h : Perused E charset s.1 ledger) (c : Call) :
    Perused E charset (c.run s).2.1 (ledger.enter c s) := by
  have ends := c.run_ends h.mode
  have sound : (c.gathers s).Sound c.enough s := gather_sound _ s
  have going (_ : BoundedSources E) : (c.gathers s).stop ≠ .exhausted := by
    refine gather_unexhausted ?_
    rw [pieceBound_eq]
    omega
  obtain ⟨decoder,state⟩ := ends.state
  have finished : (c.run s).2.1.isFinished = (c.gathers s).state.1.isFinished := by rw [state]; rfl
  simp only [Ledger.enter]
  generalize c.gathers s = g at ends sound going state finished
  refine ⟨?_,?_,?_,?_,?_,?_⟩
  · rw [state]
    exact sound.mode.trans h.mode
  · rw [state, List.length_append, ← h.consumed]
    exact sound.consumed
  · intro ended
    rw [finished]
    rcases Bool.or_eq_true_iff.mp ended with before | now
    · exact (sound.finished (h.finished before)).2
    · exact sound.ended (by simpa using now)
  · intro more last
    -- at an end that was seen before nothing is read any more
    have taken := h.remains (g.bytes ++ more) fun before => by
      rw [(sound.finished (h.finished before)).1, last (by simp [before]), List.append_nil]
    rw [← List.append_assoc] at taken
    exact taken.snoc (ends.hands more fun now => last (by simp [now]))
  · intro bounded
    rw [List.filterMap_append, h.refusals bounded]
    simp only [List.filterMap_cons, List.filterMap_nil, ends.failure (going bounded)]
    cases g.stop.failure? <;> rfl
  · intro answer mem isFinal
    rcases List.mem_append.mp mem with before | now
    · simp [h.final answer before isFinal]
    · rw [List.mem_singleton.mp now] at isFinal
      simp [ends.final isFinal]

theorem Operation.apply_of_call {op : Operation E} {c : Call} (calls : op.call? = some c) (s : Input × E) :
    op.apply s = (c.run s).2 := by
  cases op <;> cases calls <;> rfl

/-- Calls go on with the text, and nothing else touches it unless bytes are read past the decoder. -/
theorem readings_keeps : (readings : Observer E Ledger).Keeps fun i ledger =>
    ledger.bypassed = true ∨ Perused E charset i ledger where
  act op s ledger := by
    rintro (bypassed | h)
    · refine .inl ?_
      simp only [readings]
      split
      · exact bypassed
      · simp [bypassed]
    · simp only [readings]
      split
      next c calls => exact .inr (op.apply_of_call calls s ▸ h.call c)
      · cases leaves : op.reads with
        | true => exact .inl (by simp)
        | false =>
          have same := h.undisturbed (op.apply_undisturbed leaves h.mode)
          exact .inr (by simpa using same)
  look _ _ h := h
  told _ _ _ _ h := h
  endFailed _ _ _ h := h.imp_right fun h => h.undisturbed ⟨rfl,rfl,rfl,fun finished => finished⟩
  harmless _ same h := h.imp_right fun h => h.undisturbed same.toUndisturbed

/-- However a body comes in pieces, and however calls for a piece, for a line and for the rest follow
each other in a use of the input, they take the text that the whole body stands for from left to right.
They say that nothing is to come only at its end, and with sources that keep to their supply they fail
exactly where a read of the body does. -/
theorem perused_in_order (timeout : Nat) (source : Source) (expectsContinue : Bool)
    (charset : Charset) (e : E) (u : Usage E) {t : Input × Observed E Ledger}
    (used : t = (u.run readings (opened timeout source expectsContinue charset e)).2)
    (direct : t.2.log.bypassed = false) {body : Octets} {text : List Char}
    (comes : t.2.log.read <+: body) (whole : t.2.log.ended = true → t.2.log.read = body)
    (stands : charset.Stands body text) :
    (∃ left, Consumed text t.2.log.answers left) ∧
      (∀ answer ∈ t.2.log.answers, isFinal answer = true →
        t.2.log.ended = true ∧ t.1.isFinished = true) ∧
      t.1.consumed = t.2.log.read.length ∧
      (BoundedSources E → t.2.log.answers.filterMap (·.2.failure?) = t.2.log.refusals) := by
  have fresh : Perused E charset (opened timeout source expectsContinue charset e).1 {} :=
    ⟨rfl,rfl,nofun,fun _ _ => .nil,fun _ => rfl,nofun⟩
  have perused : Perused E charset t.1 t.2.log := by
    have keeps : (readings : Observer E Ledger).Keeps fun i ledger =>
        ledger.bypassed = true ∨ Perused E charset i ledger := readings_keeps
    have kept := keeps.usage u (s := opened timeout source expectsContinue charset e) (.inr fresh)
    rw [← used, direct] at kept
    exact kept.resolve_left nofun
  obtain ⟨more,rfl⟩ := comes
  refine ⟨?_,fun answer mem isFinal => ?_,perused.consumed,perused.refusals⟩
  · rw [Decoder.stands_iff.mp stands]
    exact ⟨_,perused.remains more fun ended => by simpa using whole ended⟩
  · have ended := perused.final answer mem isFinal
    exact ⟨ended,perused.finished ended⟩

end Ledgers

section Torn

/-- A character, a line end and a last character that never is finished are cut by the feeds, and every
call comes too early once. -/
def tornUsage : Usage (Scripted.Environment Unit) :=
  .use .readLine fun _ _ => .use (.feed ⟨0⟩ (.chunk [0x82,0xAC,0x0D])) fun _ _ =>
    .use .readLine fun _ _ => .use (.feed ⟨0⟩ (.chunk [0x0A,0xC3])) fun _ _ =>
      .use .readLine fun _ _ => .use .readText fun _ _ => .use (.feed ⟨0⟩ .finish) fun _ _ =>
        .use .readText fun _ _ => .use .readLine fun _ _ => .finish (.ok ())

def tornLedger : Ledger :=
  (tornUsage.run readings (opened 30000 (.channel { id := ⟨0⟩, queue := [.chunk [0x61,0xE2]] }) false
    .utf8 { kept := () })).2.2.log

def tornAnswers : List (Call × Answer) :=
  [(.line,.failed .timeout),(.line,.failed .timeout),(.line,.text "a€"),(.chunk,.failed .timeout),
    (.chunk,.text "\uFFFD"),(.line,.none)]

theorem tornAnswers_in_order :
    tornLedger.answers = tornAnswers ∧ tornLedger.bypassed = false ∧
      tornLedger.read = [0x61,0xE2,0x82,0xAC,0x0D,0x0A,0xC3] ∧
      Charset.utf8.Stands tornLedger.read ['a','€','\r','\n','\uFFFD'] ∧
      (∃ left, Consumed ['a','€','\r','\n','\uFFFD'] tornLedger.answers left) ∧
      tornLedger.refusals = [.timeout,.timeout,.timeout] ∧ tornLedger.ended = true := by
  have answers : tornLedger.answers = tornAnswers := by decide +kernel
  have direct : tornLedger.bypassed = false := by decide +kernel
  have read : tornLedger.read = [0x61,0xE2,0x82,0xAC,0x0D,0x0A,0xC3] := by decide +kernel
  have stands : Charset.utf8.Stands tornLedger.read ['a','€','\r','\n','\uFFFD'] := by
    rw [read]
    exact Utf8.lossy_iff.mpr (by decide +kernel)
  obtain ⟨consumed,final,-,refusals⟩ := perused_in_order (E := Scripted.Environment Unit) 30000
    (.channel { id := ⟨0⟩, queue := [.chunk [0x61,0xE2]] }) false .utf8 { kept := () } tornUsage rfl direct
    (List.prefix_refl tornLedger.read) (fun _ => rfl) stands
  refine ⟨answers,direct,read,stands,consumed,?_,?_⟩
  · exact (refusals inferInstance).symm.trans (answers ▸ rfl)
  · exact (final (.line,.none) (answers ▸ by decide) rfl).1

end Torn

end HttpRequest.Body
