import HttpRequest.Body.Notify
import HttpRequest.Proofs.Body.Operation
import HttpRequest.Proofs.Body.Wire

/-! # The moves that uses of an input are made of

Whatever is done with the input of a request comes down to a few kinds of moves. A source is called for
content, or the client is let go on. The mode is chosen, once, and with it the charset. Bytes are given
out. All else is quiet. So a relation between earlier and later states that composes holds of reads,
waits and polls of every kind as soon as it holds of these moves.
-/
namespace HttpRequest.Body

/-- What one call of a source outside does to the environment. -/
inductive Called {E : Type} [ExternalSources E] (e : E) : E → Prop
  | produce (key : SourceKey) : Called e (ExternalSources.produce key e).2
  | wait (key : SourceKey) (milliseconds : Nat) : Called e (ExternalSources.wait key milliseconds e).2
  | watch (key : SourceKey) : Called e (ExternalSources.watch key e).2
  | sendContinue (key : SourceKey) : Called e (ExternalSources.sendContinue key e).2

/-- What a call does that a source is made for content. -/
inductive Drawn {E : Type} [ExternalSources E] (e : E) : E → Prop
  | produce (key : SourceKey) : Drawn e (ExternalSources.produce key e).2
  | wait (key : SourceKey) (milliseconds : Nat) : Drawn e (ExternalSources.wait key milliseconds e).2
  | watch (key : SourceKey) : Drawn e (ExternalSources.watch key e).2

theorem Drawn.called {E : Type} [ExternalSources E] {e e' : E} (drawn : Drawn e e') : Called e e' := by
  cases drawn with
  | produce key => exact .produce key
  | wait key milliseconds => exact .wait key milliseconds
  | watch key => exact .watch key

structure Input.SameChoice (before after : Input) : Prop where
  mode : after.mode = before.mode
  charset : after.decoder.charset = before.decoder.charset

/-- Besides, no byte was given out in between, the client expects the same and was not let go on, and the
same source is read. -/
structure Input.Quiet (before after : Input) : Prop extends SameChoice before after where
  consumed : after.consumed = before.consumed
  expectsContinue : after.expectsContinue = before.expectsContinue
  interims : after.interims = before.interims
  wire : SameWire before after

/-- A relation that composes and that no single move breaks. -/
structure Moves {E : Type} [ExternalSources E] (R : Input × E → Input × E → Prop) : Prop where
  trans : ∀ {a b c}, R a b → R b c → R a c
  quiet : ∀ {i j : Input} (e : E), i.Quiet j → R (i,e) (j,e)
  choice : ∀ {i : Input} (mode : Mode) (charset : Charset) (e : E), i.mode = .idle →
    R (i,e) ({ i with mode, decoder := { i.decoder with charset } },e)
  give : ∀ (n : Nat) (i : Input) (e : E), R (i,e) ((Input.readBuffered n i).2,e)
  draw : ∀ (i : Input) {e e' : E}, Drawn e e' → R (i,e) (i,e')
  sendContinue : ∀ s, R s (Input.sendContinue s).2

namespace Input

variable {E : Type}

theorem SameChoice.refl (i : Input) : SameChoice i i := ⟨rfl,rfl⟩

theorem Quiet.refl (i : Input) : Quiet i i := ⟨.refl i,rfl,rfl,rfl,.refl i⟩

theorem feed_charset (d : Decoder) (bytes : Octets) : (d.feed bytes).charset = d.charset := by
  unfold Decoder.feed
  split <;> rfl

theorem takeLine?_charset {d rest : Decoder} {line : String} (taken : d.takeLine? = some (line,rest)) :
    rest.charset = d.charset := by
  unfold Decoder.takeLine? at taken
  split at taken <;> cases taken
  rfl

theorem readBuffered_choice (n : Nat) (i : Input) : SameChoice i (readBuffered n i).2 := by
  unfold readBuffered
  split
  · exact ⟨rfl,rfl⟩
  · split <;> exact ⟨rfl,rfl⟩

theorem quiet_sourced {i : Input} {source : Source} (reads : i.source = some source) {other : Source}
    (same : other.handle? = source.handle?) : Quiet i { i with source := some other } :=
  ⟨⟨rfl,rfl⟩,rfl,rfl,rfl,.of_source reads rfl same rfl⟩

theorem surfaceFailure_quiet (i : Input) : Quiet i i.surfaceFailure := by
  unfold surfaceFailure
  split <;> exact ⟨⟨rfl,rfl⟩,rfl,rfl,rfl,.of_same rfl rfl⟩

theorem changeChannel_quiet (i : Input) (id : ChannelId) {f : Channel → Channel} (same : ∀ c, (f c).id = c.id) :
    Quiet i (i.changeChannel id f) := by
  unfold changeChannel
  split
  next c reads =>
    split
    · exact quiet_sourced reads (congrArg (some ∘ Handle.channel) (same c))
    · exact .refl i
  · exact .refl i

theorem addFeeder_quiet (i : Input) (id : ChannelId) : Quiet i (i.addFeeder id) :=
  changeChannel_quiet i id fun _ => rfl

theorem dropFeeder_quiet (i : Input) (id : ChannelId) : Quiet i (i.dropFeeder id) :=
  changeChannel_quiet i id fun _ => rfl

theorem feed_quiet (i : Input) (id : ChannelId) (f : Feed) : Quiet i (i.feed id f).2 := by
  unfold Input.feed
  split
  next c reads =>
    split
    · exact ⟨⟨rfl,rfl⟩,rfl,rfl,rfl,.of_source reads rfl rfl rfl⟩
    · exact .refl i
  · exact .refl i

theorem fail_quiet (i : Input) (f : Failure) : Quiet i (i.fail f).2 := by
  unfold Input.fail
  split <;> exact ⟨⟨rfl,rfl⟩,rfl,rfl,rfl,.of_same rfl rfl⟩

theorem setListener_quiet {i j : Input} {l : ListenerKey} (set : i.setListener l = .ok j) : Quiet i j := by
  unfold setListener at set
  split at set
  · cases set
  · split at set
    · cases set
    · cases set
      exact ⟨⟨rfl,rfl⟩,rfl,rfl,rfl,.of_same rfl rfl⟩

end Input

namespace Moves

open Input

section Coarse
variable {E : Type} [ExternalSources E] {R : Input × E → Input × E → Prop}

/-- For a relation to which the count of bytes and the expectation of the client are no matter, these two
moves are like the others. -/
theorem of_called (trans : ∀ {a b c}, R a b → R b c → R a c)
    (quiet : ∀ {i j : Input} (e : E), i.SameChoice j → R (i,e) (j,e))
    (choice : ∀ {i : Input} (mode : Mode) (charset : Charset) (e : E), i.mode = .idle →
      R (i,e) ({ i with mode, decoder := { i.decoder with charset } },e))
    (call : ∀ (i : Input) {e e' : E}, Called e e' → R (i,e) (i,e')) : Moves R where
  trans := trans
  quiet e same := quiet e same.toSameChoice
  choice := choice
  give n i e := quiet e (readBuffered_choice n i)
  draw i _ _ drawn := call i drawn.called
  sendContinue s := by
    have called : R s (s.1,(leave s).2) := by
      rcases leave_cases s with ⟨same,-⟩ | ⟨key,same,-⟩
      · rw [same]
        exact quiet s.2 (.refl s.1)
      · rw [same]
        exact call s.1 (.sendContinue key)
    rw [sendContinue_eq]
    exact trans called (quiet (leave s).2 ⟨rfl,rfl⟩)

end Coarse

variable {E : Type} [ExternalSources E] {R : Input × E → Input × E → Prop} (h : Moves R)
include h

theorem refl (s : Input × E) : R s s :=
  h.quiet s.2 (.refl s.1)

theorem asked (i : Input) {e e' : E} (asks : e' = e ∨ Drawn e e') : R (i,e) (i,e') := by
  rcases asks with rfl | drawn
  · exact h.refl _
  · exact h.draw i drawn

theorem enterStream {i j : Input} (entered : i.enterStream = .ok j) (e : E) : R (i,e) (j,e) := by
  unfold Input.enterStream at entered
  split at entered
  next idle =>
    cases entered
    exact h.choice .stream i.decoder.charset e idle
  · cases entered
    exact h.refl _
  · cases entered

theorem enterReader {i j : Input} {charset : Charset} (entered : i.enterReader charset = .ok j) (e : E) :
    R (i,e) (j,e) := by
  unfold Input.enterReader at entered
  split at entered
  next idle =>
    cases entered
    exact h.choice .reader charset e idle
  · cases entered
    exact h.refl _
  · cases entered

theorem requestMore (s : Input × E) : R s (requestMore s) := by
  obtain ⟨i,e⟩ := s
  have asks (source : Source) :
      (source.produce i.buffer e).2.2 = e ∨ Drawn e (source.produce i.buffer e).2.2 := by
    cases source with
    | memory content => exact .inl rfl
    | channel c => exact .inl rfl
    | external key => exact .inr (.produce key)
  unfold Input.requestMore
  dsimp only
  split
  · exact h.refl _
  · split
    · exact h.quiet e ⟨⟨rfl,rfl⟩,rfl,rfl,rfl,.of_same rfl rfl⟩
    next source reads =>
      have wire : SameWire i { i with
          source := some (source.produce i.buffer e).1
          buffer := (source.produce i.buffer e).2.1 } :=
        .of_source reads rfl (source.produce_handle? i.buffer e) rfl
      exact h.trans (h.asked i (asks source)) (h.quiet _ ⟨⟨rfl,rfl⟩,rfl,rfl,rfl,wire⟩)

theorem watch (s : Input × E) : R s (watch s) := by
  obtain ⟨i,e⟩ := s
  have asks (source : Source) : (source.watch e).2.2 = e ∨ Drawn e (source.watch e).2.2 := by
    cases source with
    | memory content => exact .inl rfl
    | channel c => exact .inl rfl
    | external key => exact .inr (.watch key)
  have wire := watch_wire (i,e)
  unfold Input.watch at wire ⊢
  dsimp only at wire ⊢
  split
  · exact h.quiet e ⟨⟨rfl,rfl⟩,rfl,rfl,rfl,.of_same rfl rfl⟩
  next source reads =>
    rw [reads] at wire
    exact h.trans (h.asked i (asks source)) (h.quiet _ ⟨⟨rfl,rfl⟩,rfl,rfl,rfl,wire⟩)

theorem settleWithin (n : Nat) (s : Input × E) : R s (settleWithin n s).2 := by
  induction n generalizing s with
  | zero => exact h.refl s
  | succ n ih =>
    have asked := h.requestMore s
    unfold Input.settleWithin
    split
    next i e more =>
      rw [more] at asked
      split
      · exact asked
      · split
        · exact asked
        next source reads =>
          have asks : (source.wait i.timeout e).2.2 = e ∨ Drawn e (source.wait i.timeout e).2.2 := by
            cases source with
            | memory content => exact .inl rfl
            | channel c => exact .inl (by simp only [Source.wait]; split <;> rfl)
            | external key => exact .inr (.wait key i.timeout)
          have waited {other : Source} {e' : E} (same : (source.wait i.timeout e).2 = (other,e')) :
              R s ({ i with source := some other },e') := by
            have handle := source.wait_handle? i.timeout e
            rw [same] at asks handle
            exact h.trans asked (h.trans (h.asked i asks) (h.quiet e' (quiet_sourced reads handle)))
          split
          next waits => exact waited (congrArg Prod.snd waits)
          next waits => exact h.trans (waited (congrArg Prod.snd waits)) (ih _)

theorem isReady (s : Input × E) : R s (isReady s).2 := by
  unfold Input.isReady
  split
  · exact h.refl s
  · dsimp only
    split
    · exact h.requestMore s
    · exact h.trans (h.requestMore s) (h.watch _)

theorem prepare (s : Input × E) : R s (prepare s).2 := by
  unfold Input.prepare
  split
  · exact h.settleWithin _ s
  · dsimp only
    split <;> exact h.requestMore s

theorem read (n : Nat) (s : Input × E) : R s (read n s).2 := by
  have prepared := h.prepare s
  unfold Input.read
  split
  · exact h.refl s
  · split
    · exact h.refl s
    · split
      next refused => rw [refused] at prepared; exact prepared
      next i e ready => rw [ready] at prepared; exact h.trans prepared (h.give n i e)

theorem readPieces (n : Nat) (pieces : List Octets) (s : Input × E) : R s (readPieces n pieces s).2 := by
  induction n generalizing pieces s with
  | zero => exact h.refl s
  | succ n ih =>
    have first := h.read pieceSize s
    unfold Input.readPieces
    split
    next failed => rw [failed] at first; exact first
    next ended => rw [ended] at first; exact first
    next more => rw [more] at first; exact h.trans first (ih _ _)

theorem readReadyPieces (size n : Nat) (pieces : List Octets) (s : Input × E) :
    R s (readReadyPieces size n pieces s).2 := by
  induction n generalizing pieces s with
  | zero => exact h.refl s
  | succ n ih =>
    have asked := h.isReady s
    unfold Input.readReadyPieces
    split
    next waits => rw [waits] at asked; exact asked
    next t ready =>
      rw [ready] at asked
      have first := h.trans asked (h.read size t)
      split
      next failed => rw [failed] at first; exact first
      next ended => rw [ended] at first; exact first
      next more => rw [more] at first; exact h.trans first (ih _ _)

theorem skipRest (s : Input × E) : R s (skipRest s).2 := by
  have rest := h.readPieces (pieceBound s) [] s
  unfold Input.skipRest
  split
  next failed => rw [← readRest, failed] at rest; exact rest
  next ended => rw [← readRest, ended] at rest; exact rest

theorem fill (s : Input × E) : R s (fill s).2 := by
  have first := h.read pieceSize s
  unfold Input.fill
  split
  next failed => rw [failed] at first; exact first
  next ended => rw [ended] at first; exact h.trans first (h.quiet _ ⟨⟨rfl,rfl⟩,rfl,rfl,rfl,.of_same rfl rfl⟩)
  next more => rw [more] at first; exact h.trans first (h.quiet _ ⟨⟨rfl,feed_charset _ _⟩,rfl,rfl,rfl,.of_same rfl rfl⟩)

theorem takeText (s : Input × E) : R s (takeText s).2 :=
  h.quiet s.2 ⟨⟨rfl,rfl⟩,rfl,rfl,rfl,.of_same rfl rfl⟩

theorem readTextWithin (n : Nat) (s : Input × E) : R s (readTextWithin n s).2 := by
  induction n generalizing s with
  | zero => exact h.refl s
  | succ n ih =>
    have first := h.fill s
    unfold Input.readTextWithin
    split
    · split
      next failed => rw [failed] at first; exact first
      next more => rw [more] at first; exact h.trans first (ih _)
      next ended =>
        rw [ended] at first
        split
        · exact first
        · exact h.trans first (h.takeText _)
    · exact h.takeText s

theorem readLineWithin (n : Nat) (s : Input × E) : R s (readLineWithin n s).2 := by
  induction n generalizing s with
  | zero => exact h.refl s
  | succ n ih =>
    have first := h.fill s
    unfold Input.readLineWithin
    split
    next taken => exact h.quiet s.2 ⟨⟨rfl,takeLine?_charset taken⟩,rfl,rfl,rfl,.of_same rfl rfl⟩
    · split
      next failed => rw [failed] at first; exact first
      next more => rw [more] at first; exact h.trans first (ih _)
      next ended => rw [ended] at first; exact h.trans first (h.takeText _)

theorem readAllWithin (n : Nat) (s : Input × E) : R s (readAllWithin n s).2 := by
  induction n generalizing s with
  | zero => exact h.refl s
  | succ n ih =>
    have first := h.fill s
    unfold Input.readAllWithin
    split
    next failed => rw [failed] at first; exact first
    next more => rw [more] at first; exact h.trans first (ih _)
    next ended => rw [ended] at first; exact h.trans first (h.takeText _)

theorem asReader {α : Type} {f : Input × E → Except Failure α × (Input × E)} (keeps : ∀ s, R s (f s).2)
    (s : Input × E) : R s (asReader f s).2 := by
  unfold Input.asReader
  split
  · exact h.refl s
  · exact keeps s

/-- What an operation of the library does, as long as it neither attaches a source nor acts on the
environment at will. -/
theorem apply {op : Operation E} (keeps : ∀ source expects, op ≠ .attach source expects)
    (own : ∀ change, op ≠ .useEnvironment change) (s : Input × E) : R s (op.apply s) := by
  have accepted {i : Input} {result : Except Failure Input} {e : E} (goes : ∀ j, result = .ok j → R (i,e) (j,e)) :
      R (i,e) (result.toOption.getD i,e) := by
    cases result with
    | error f => exact h.refl _
    | ok j => exact goes j rfl
  obtain ⟨i,e⟩ := s
  cases op with
  | attach source expects => exact absurd rfl (keeps source expects)
  | setTimeout timeout => exact h.quiet e ⟨⟨rfl,rfl⟩,rfl,rfl,rfl,.of_same rfl rfl⟩
  | enterStream => exact accepted fun _ entered => h.enterStream entered e
  | enterReader charset => exact accepted fun _ entered => h.enterReader entered e
  | sendContinue => exact h.sendContinue (i,e)
  | requestMore => exact h.requestMore (i,e)
  | settle => exact h.settleWithin _ (i,e)
  | watch => exact h.watch (i,e)
  | setListener l => exact accepted fun _ set => h.quiet e (setListener_quiet set)
  | isReady => exact h.isReady (i,e)
  | fail f => exact h.quiet e (fail_quiet i f)
  | read n => exact h.read n (i,e)
  | readRest => exact h.readPieces _ [] (i,e)
  | readReady size => exact h.readReadyPieces size _ [] (i,e)
  | skipRest => exact h.skipRest (i,e)
  | readText => exact h.asReader (fun t => h.readTextWithin _ t) (i,e)
  | readLine => exact h.asReader (fun t => h.readLineWithin _ t) (i,e)
  | readAll => exact h.asReader (fun t => h.readAllWithin _ t) (i,e)
  | feed id f => exact h.quiet e (feed_quiet i id f)
  | addFeeder id => exact h.quiet e (addFeeder_quiet i id)
  | dropFeeder id => exact h.quiet e (dropFeeder_quiet i id)
  | raiseFrom key => exact h.quiet e ⟨⟨rfl,rfl⟩,rfl,rfl,rfl,.of_same rfl rfl⟩
  | useEnvironment change => exact absurd rfl (own change)

section Polls

variable {cb : Callbacks E} (data : ∀ l s, R s ((cb.onData l).exec s).2) (ends : ∀ l s, R s ((cb.onEnd l).exec s).2)
  (told : ∀ l f i e, R (i,e) (i,cb.onFailure l f e))

include data in
theorem tellData (l : ListenerKey) (s : Input × E) : R s (tellData cb l s) := by
  have asked := h.requestMore s
  have called := h.trans asked (data l (Input.requestMore s))
  unfold Input.tellData
  split
  · exact h.refl s
  · dsimp only
    split
    · split
      next done => rw [done] at called; exact called
      next failed => rw [failed] at called; exact h.trans called (h.quiet _ ⟨⟨rfl,rfl⟩,rfl,rfl,rfl,.of_same rfl rfl⟩)
    · exact asked

include told in
theorem tellFailure (l : ListenerKey) (f : Failure) (s : Input × E) : R s (tellFailure cb l f s).2 := by
  unfold Input.tellFailure
  split
  · exact h.refl s
  · exact h.trans (told l f s.1 s.2) (h.quiet _ ⟨⟨rfl,rfl⟩,rfl,rfl,rfl,.of_same rfl rfl⟩)

include ends told in
theorem tellEnd (l : ListenerKey) (s : Input × E) : R s (tellEnd cb l s) := by
  have marked : R s ({ s.1 with endTold := true },s.2) := h.quiet s.2 ⟨⟨rfl,rfl⟩,rfl,rfl,rfl,.of_same rfl rfl⟩
  have called := h.trans marked (ends l ({ s.1 with endTold := true },s.2))
  unfold Input.tellEnd
  split
  · exact h.refl s
  · split
    next done => rw [done] at called; exact called
    next f i e failed =>
      rw [failed] at called
      exact h.trans called (h.trans (told l f i e) (h.quiet _ ⟨⟨rfl,rfl⟩,rfl,rfl,rfl,.of_same rfl rfl⟩))

include data ends told

theorem deliver (l : ListenerKey) (s : Input × E) : R s (deliver cb l s).2 := by
  have surfaced := h.trans (h.tellData data l s) (h.quiet _ (surfaceFailure_quiet (Input.tellData cb l s).1))
  unfold Input.deliver
  dsimp only
  split
  next f _ => exact h.trans surfaced (h.tellFailure told l f _)
  · split
    · exact h.trans surfaced (h.tellEnd ends told l _)
    · split
      · exact surfaced
      · exact h.trans surfaced (h.watch _)

theorem onReadPossible (s : Input × E) : R s (onReadPossible cb s).2 := by
  unfold Input.onReadPossible
  dsimp only
  split
  · exact h.quiet s.2 ⟨⟨rfl,rfl⟩,rfl,rfl,rfl,.of_same rfl rfl⟩
  next l _ =>
    have detached : R s ({ s.1 with signal := .idle, listener := none },s.2) :=
      h.quiet s.2 ⟨⟨rfl,rfl⟩,rfl,rfl,rfl,.of_same rfl rfl⟩
    have delivered := h.trans detached (h.deliver data ends told l _)
    exact h.trans delivered (h.quiet _ ⟨⟨rfl,rfl⟩,rfl,rfl,rfl,.of_same rfl rfl⟩)

end Polls

end Moves

theorem moves_wire {E : Type} [ExternalSources E] : Moves fun s t : Input × E => Input.SameWire s.1 t.1 where
  trans := .trans
  quiet _ quiet := quiet.wire
  choice _ _ _ _ := .of_same rfl rfl
  give n i _ := by
    unfold Input.readBuffered
    split
    · exact .of_same rfl rfl
    · split <;> exact .of_same rfl rfl
  draw i _ _ _ := .refl i
  sendContinue s := by
    rw [Input.sendContinue_eq]
    exact .of_same rfl rfl

/-- What users do with an input: operations and polls, one after another, each chosen by what happened
before. What the callbacks of a poll do is of the same kind. -/
inductive Use {E : Type} [ExternalSources E] : (Input × E → Input × E) → Prop
  | operation (op : Operation E) : Use op.apply
  | poll (cb : Callbacks E) (data : ∀ l, Use fun s => ((cb.onData l).exec s).2)
      (ends : ∀ l, Use fun s => ((cb.onEnd l).exec s).2) : Use fun s => (Input.onReadPossible cb s).2
  | nothing : Use id
  | next {first : Input × E → Input × E} {later : Input × E → Input × E → Input × E} (begins : Use first)
      (goesOn : ∀ s, Use (later s)) : Use fun s => later s (first s)

/-- The use keeps to operations of a kind. What is done to the environment when a listener is told of a
failure is such an operation as well. -/
inductive UseOf {E : Type} [ExternalSources E] (fine : Operation E → Prop) : (Input × E → Input × E) → Prop
  | operation {op : Operation E} (allowed : fine op) : UseOf fine op.apply
  | poll {cb : Callbacks E} (data : ∀ l, UseOf fine fun s => ((cb.onData l).exec s).2)
      (ends : ∀ l, UseOf fine fun s => ((cb.onEnd l).exec s).2) (told : ∀ l f, fine (.useEnvironment (cb.onFailure l f))) :
      UseOf fine fun s => (Input.onReadPossible cb s).2
  | nothing : UseOf fine id
  | next {first : Input × E → Input × E} {later : Input × E → Input × E → Input × E} (begins : UseOf fine first)
      (goesOn : ∀ s, UseOf fine (later s)) : UseOf fine fun s => later s (first s)

section Uses

variable {E : Type} [ExternalSources E] {change : Input × E → Input × E}

theorem Use.useOf (use : Use change) : UseOf (fun _ => True) change := by
  induction use with
  | operation op => exact .operation trivial
  | poll cb _ _ data ends => exact .poll data ends fun _ _ => trivial
  | nothing => exact .nothing
  | next _ _ begins goesOn => exact .next begins goesOn

variable {R : Input × E → Input × E → Prop} (h : Moves R)
include h

theorem Moves.useOf {fine : Operation E → Prop} (operation : ∀ op, fine op → ∀ s, R s (op.apply s))
    (use : UseOf fine change) (s : Input × E) : R s (change s) := by
  induction use generalizing s with
  | operation allowed => exact operation _ allowed s
  | poll _ _ told data ends => exact h.onReadPossible data ends (fun l f i e => operation _ (told l f) (i,e)) s
  | nothing => exact h.refl s
  | next _ _ first later => exact h.trans (first s) (later s _)

/-- A relation that does not mind what is done to the environment, nor that a source is attached, holds
of any use. -/
theorem Moves.use (elsewhere : ∀ (i : Input) (e e' : E), R (i,e) (i,e'))
    (attached : ∀ (i : Input) (source : Source) (expects : Bool) (e : E), R (i,e) (i.attach source expects,e))
    (use : Use change) (s : Input × E) : R s (change s) := by
  refine h.useOf (fun op _ s => ?_) use.useOf s
  cases op with
  | useEnvironment change => exact elsewhere s.1 s.2 _
  | attach source expects => exact attached s.1 source expects s.2
  | _ => exact h.apply (by simp) (by simp) s

end Uses

end HttpRequest.Body
