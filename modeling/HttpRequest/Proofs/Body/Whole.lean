import HttpRequest.Proofs.Body.Fidelity
import HttpRequest.Proofs.Body.Operation

/-! # A body that is there to its end

A source brings a body whole when each request for content delivers some of it, until one delivers the
end. Blocking reads of such a body never wait. Whatever the pieces in which it was sent and in which it
is read, one read after another takes a part off its front, and a part is empty only when all was read.
-/
namespace HttpRequest.Body

namespace Delivery

/-- Nothing fails on the way. -/
def Clean (deliveries : List Delivery) : Prop :=
  ∀ f, .failed f ∉ deliveries

theorem clean_cons_iff {d : Delivery} {rest : List Delivery} :
    Clean (d :: rest) ↔ (∀ f, d ≠ .failed f) ∧ Clean rest := by
  simp only [Clean, List.mem_cons, not_or, forall_and, ne_eq, eq_comm]

end Delivery

open Delivery

namespace Buffer

theorem receive_clean {deliveries : List Delivery} (clean : Clean deliveries) (b : Buffer) :
    (deliveries.foldl receive b).failure = b.failure ∧
      (deliveries.foldl receive b).finished = (b.finished || deliveries.contains .finished) := by
  induction deliveries generalizing b with
  | nil => simp
  | cons d rest ih =>
    obtain ⟨unfailed,clean⟩ := clean_cons_iff.mp clean
    obtain ⟨failure,finished⟩ := ih clean (b.receive d)
    rw [List.foldl_cons, failure, finished]
    cases d with
    | bytes chunk =>
      have pushed : (b.push chunk).failure = b.failure := by
        unfold push
        split <;> rfl
      exact ⟨pushed,by simp [receive]⟩
    | finished => exact ⟨rfl,by simp [receive, finish]⟩
    | failed f => exact absurd rfl (unfailed f)

end Buffer

namespace Channel

theorem drain_rest (feeds : List Feed) (b other : Buffer) : (drain feeds b).2.1 = (drain feeds other).2.1 := by
  have parted := (through_append_drain feeds b).trans (through_append_drain feeds other).symm
  exact List.append_cancel_left parted

theorem produce_fst (c : Channel) (b other : Buffer) : (c.produce b).1 = (c.produce other).1 := by
  cases closed : c.closed with
  | true =>
    unfold produce flushPending
    cases pending : c.pending <;> simp [closed]
  | false =>
    have found := (drain_fst c.waiting b).trans (drain_fst c.waiting other).symm
    have rest := drain_rest c.waiting b other
    rw [produce_of_open closed, produce_of_open closed]
    generalize drain c.waiting b = drained at found rest
    generalize drain c.waiting other = drained' at found rest
    obtain ⟨found₁,rest₁,left₁⟩ := drained
    obtain ⟨found₂,rest₂,left₂⟩ := drained'
    dsimp only at found rest
    subst found rest
    cases found₁ with
    | true => rfl
    | false =>
      dsimp only
      split <;> rfl

theorem find?_of_mem_through {feeds : List Feed} {f : Feed} (mem : f ∈ through feeds) (closes : f.closes = true) :
    feeds.find? Feed.closes = some f := by
  induction feeds with
  | nil => cases mem
  | cons g rest ih =>
    unfold through at mem
    by_cases stops : g.closes = true
    · rw [if_pos stops, List.mem_singleton] at mem
      subst mem
      rw [List.find?_cons_of_pos stops]
    · rw [if_neg stops, List.mem_cons] at mem
      rw [List.find?_cons_of_neg stops]
      rcases mem with rfl | mem
      · exact absurd closes stops
      · exact ih mem

theorem deliveries_of_finish {c : Channel} (opened : c.closed = false)
    (finishes : c.waiting.find? Feed.closes = some .finish) :
    Clean c.deliveries ∧ .finished ∈ c.deliveries ∧ bytesOf c.deliveries = bodyOf c.waiting := by
  have closes : c.waiting.any Feed.closes = true :=
    List.any_eq_true.mpr ⟨_,List.mem_of_find?_eq_some finishes,rfl⟩
  have all : c.deliveries = (through c.waiting).map Feed.delivery := by
    simp [deliveries, opened, closes]
  obtain ⟨first,body⟩ := through_spec c.waiting
  rw [finishes] at first
  refine ⟨?_,?_,?_⟩
  · intro f fails
    rw [all, List.mem_map] at fails
    obtain ⟨g,mem,delivered⟩ := fails
    have aborts : g.closes = true := by
      cases g with
      | chunk bytes => cases delivered
      | finish => rfl
      | abort reason => rfl
    have finish := find?_of_mem_through mem aborts
    rw [finishes] at finish
    cases finish
    cases delivered
  · rw [all]
    exact List.mem_map.mpr ⟨.finish,List.mem_of_find?_eq_some first,rfl⟩
  · rw [all]
    exact body

end Channel

namespace Source
variable {E : Type} [ExternalSources E]

/-- The source and its environment after a request for content. -/
def asked (source : Source) (e : E) : Source × E :=
  ((source.produce .empty e).1, (source.produce .empty e).2.2)

theorem produce_eq (source : Source) (b : Buffer) (e : E) :
    source.produce b e = ((source.asked e).1,(source.deliveries e).foldl Buffer.receive b,(source.asked e).2) := by
  rw [← produce_buffer]
  cases source with
  | memory content => rfl
  | channel c =>
    have same := c.produce_fst b .empty
    simp only [asked, produce]
    rw [same]
  | external key => rfl

/-- The source brings these bytes and then the end, and whenever it is asked before the end it brings
some of them. -/
inductive Brings : Source → E → Octets → Prop
  | last {source : Source} {e : E} (clean : Clean (source.deliveries e))
      (ends : .finished ∈ source.deliveries e) : Brings source e (bytesOf (source.deliveries e))
  | more {source : Source} {e : E} {rest : Octets} (clean : Clean (source.deliveries e))
      (goesOn : .finished ∉ source.deliveries e) (nonempty : bytesOf (source.deliveries e) ≠ [])
      (later : Brings (source.asked e).1 (source.asked e).2 rest) :
      Brings source e (bytesOf (source.deliveries e) ++ rest)

theorem brings_channel {c : Channel} (opened : c.closed = false)
    (finishes : c.waiting.find? Feed.closes = some .finish) (e : E) :
    Brings (.channel c) e (Channel.bodyOf c.waiting) := by
  obtain ⟨clean,ends,bytes⟩ := Channel.deliveries_of_finish opened finishes
  rw [← bytes]
  exact .last clean ends

end Source

namespace Input
variable {E : Type} [ExternalSources E]

/-- The input holds these bytes and the end behind them, in its buffer or in its source. -/
inductive Holds : Input × E → Octets → Prop
  | ended {i : Input} {e : E} (unfailed : i.failure = none) (finished : i.buffer.finished = true)
      (clean : i.buffer.failure = none) : Holds (i,e) i.buffer.bytes
  | sourceless {i : Input} {e : E} (unfailed : i.failure = none) (goesOn : i.buffer.finished = false)
      (source : i.source = none) : Holds (i,e) i.buffer.bytes
  | sourced {i : Input} {e : E} {source : Source} {rest : Octets} (unfailed : i.failure = none)
      (goesOn : i.buffer.finished = false) (reads : i.source = some source) (brings : source.Brings e rest) :
      Holds (i,e) (i.buffer.bytes ++ rest)

namespace Holds
variable {i j : Input} {e : E} {s : Input × E} {body : Octets}

theorem unfailed (h : Holds s body) : s.1.failure = none := by
  cases h with
  | ended unfailed => exact unfailed
  | sourceless unfailed => exact unfailed
  | sourced unfailed => exact unfailed

theorem congr (h : Holds (i,e) body) (source : j.source = i.source) (buffer : j.buffer = i.buffer)
    (failure : j.failure = i.failure) : Holds (j,e) body := by
  cases h with
  | ended unfailed finished clean =>
    rw [← buffer] at finished clean ⊢
    exact .ended (failure.trans unfailed) finished clean
  | sourceless unfailed goesOn none =>
    rw [← buffer] at goesOn ⊢
    exact .sourceless (failure.trans unfailed) goesOn (source.trans none)
  | sourced unfailed goesOn reads brings =>
    rw [← buffer] at goesOn ⊢
    exact .sourced (failure.trans unfailed) goesOn (source.trans reads) brings

theorem requestMore (h : Holds s body) : Holds (requestMore s) body ∧ (requestMore s).1.settled = true := by
  by_cases settled : s.1.settled = true
  · rw [requestMore_of_settled settled]
    exact ⟨h,settled⟩
  · obtain ⟨-,unfinished,empty⟩ := unsettled settled
    cases h with
    | ended unfailed finished clean => exact absurd (finished.symm.trans unfinished) nofun
    | @sourceless i e unfailed goesOn source =>
      have asked : Input.requestMore (i,e) = ({ i with buffer := i.buffer.finish },e) := by
        simp only [Input.requestMore, settled, Bool.false_eq_true, if_false, source]
      have clean : i.buffer.finish.failure = none := (Buffer.failure_eq_none goesOn : i.buffer.failure = none)
      rw [asked]
      exact ⟨.ended unfailed rfl clean,by simp [Input.settled, Buffer.finish]⟩
    | @sourced i e source rest unfailed goesOn reads brings =>
      have asked : Input.requestMore (i,e) = ({ i with
          source := some (source.asked e).1
          buffer := (source.deliveries e).foldl Buffer.receive i.buffer },(source.asked e).2) := by
        simp only [Input.requestMore, settled, Bool.false_eq_true, if_false, reads, source.produce_eq]
      have bytes : ((source.deliveries e).foldl Buffer.receive i.buffer).bytes =
          i.buffer.bytes ++ bytesOf (source.deliveries e) := by
        rw [Buffer.bytes_receive, goesOn]
        rfl
      rw [asked]
      cases brings with
      | last clean ends =>
        obtain ⟨failure,finished⟩ := Buffer.receive_clean clean i.buffer
        have finished : ((source.deliveries e).foldl Buffer.receive i.buffer).finished = true := by
          rw [finished]
          simp [ends]
        rw [← bytes]
        exact ⟨.ended unfailed finished (failure.trans (Buffer.failure_eq_none goesOn)),by simp [Input.settled, finished]⟩
      | more clean more some later =>
        have unfinished : ((source.deliveries e).foldl Buffer.receive i.buffer).finished = false := by
          rw [(Buffer.receive_clean clean i.buffer).2, goesOn]
          simpa using more
        have content : ((source.deliveries e).foldl Buffer.receive i.buffer).hasContent = true := by
          rw [Buffer.hasContent_iff, bytes]
          simp [some]
        rw [← List.append_assoc, ← bytes]
        exact ⟨.sourced unfailed unfinished rfl later,by simp [Input.settled, content]⟩

theorem prepare (h : Holds s body) (blocking : s.1.pacing = .blocking) :
    prepare s = (.ok (),Input.requestMore s) := by
  obtain ⟨i,e⟩ := s
  have settled := h.requestMore.2
  unfold Input.prepare settle
  rw [blocking]
  dsimp only
  unfold settleWithin
  generalize Input.requestMore (i,e) = t at settled
  obtain ⟨j,e⟩ := t
  dsimp only at settled ⊢
  rw [if_pos settled]

theorem readBuffered (h : Holds (i,e) body) (ready : i.settled = true) (n : Nat) :
    ∃ piece rest, (readBuffered (n + 1) i).1 = .ok piece ∧ body = piece ++ rest ∧
      Holds ((Input.readBuffered (n + 1) i).2,e) rest ∧ (piece = [] → rest = []) := by
  unfold Input.readBuffered
  split
  next content =>
    have nonempty : (i.buffer.take (n + 1)).1 ≠ [] := by simpa using i.buffer.hasContent_iff.mp content
    have parts : i.buffer.bytes = (i.buffer.take (n + 1)).1 ++ (i.buffer.take (n + 1)).2.bytes := by simp
    cases h with
    | ended unfailed finished clean =>
      exact ⟨_,_,rfl,parts,.ended unfailed finished clean,fun nothing => absurd nothing nonempty⟩
    | sourceless unfailed goesOn source =>
      exact ⟨_,_,rfl,parts,.sourceless unfailed goesOn source,fun nothing => absurd nothing nonempty⟩
    | sourced unfailed goesOn reads brings =>
      refine ⟨_,_,rfl,?_,.sourced unfailed goesOn reads brings,fun nothing => absurd nothing nonempty⟩
      rw [← List.append_assoc, ← parts]
  next nothing =>
    -- an input that is settled without bytes has ended
    have nothing : i.buffer.hasContent = false := by simpa using nothing
    have empty := i.buffer.hasContent_eq_false_iff.mp nothing
    have finished : i.buffer.finished = true := by
      have unfailed : i.failure = none := h.unfailed
      simpa [settled, nothing, unfailed] using ready
    cases h with
    | ended unfailed finished clean =>
      rw [clean]
      exact ⟨[],[],rfl,empty,empty ▸ .ended unfailed finished clean,fun _ => rfl⟩
    | sourceless unfailed goesOn source => exact absurd (goesOn.symm.trans finished) Bool.false_ne_true
    | sourced unfailed goesOn reads brings => exact absurd (goesOn.symm.trans finished) Bool.false_ne_true

theorem read (h : Holds s body) (blocking : s.1.pacing = .blocking) (n : Nat) :
    ∃ piece rest, (read (n + 1) s).1 = .ok piece ∧ body = piece ++ rest ∧
      Holds (Input.read (n + 1) s).2 rest ∧ (piece = [] → rest = []) := by
  obtain ⟨more,settled⟩ := h.requestMore
  have reads : Input.read (n + 1) s =
      ((Input.readBuffered (n + 1) (Input.requestMore s).1).1,
        (Input.readBuffered (n + 1) (Input.requestMore s).1).2,(Input.requestMore s).2) := by
    simp only [Input.read, h.unfailed, h.prepare blocking, Nat.add_eq_zero_iff, Nat.one_ne_zero, and_false, if_false]
  rw [reads]
  exact more.readBuffered settled n

end Holds

/-- The input holds these bytes once the client was let go on. -/
def Fed (s : Input × E) (body : Octets) : Prop :=
  (sendContinue s).1 = .ok () ∧ Holds (sendContinue s).2 body

theorem fed_iff {i : Input} {e : E} {body : Octets} :
    Fed (i,e) body ↔ (leave (i,e)).1 = .ok () ∧ Holds (i,(leave (i,e)).2) body := by
  rw [Fed, sendContinue_eq]
  exact and_congr_right fun _ => ⟨(·.congr rfl rfl rfl),(·.congr rfl rfl rfl)⟩

theorem Fed.ofMode {i : Input} {e : E} {body : Octets} (h : Fed (i,e) body) (mode : Mode) :
    Fed ({ i with mode },e) body := by
  obtain ⟨told,holds⟩ := fed_iff.mp h
  exact fed_iff.mpr ⟨told,holds.congr rfl rfl rfl⟩

theorem Holds.fed {s : Input × E} {body : Octets} (h : Holds s body)
    (inside : ∀ key, s.1.source ≠ some (.external key)) : Fed s body := by
  obtain ⟨i,e⟩ := s
  have nobody : leave (i,e) = (.ok (),e) := by
    unfold leave
    dsimp only at inside ⊢
    split
    · cases source : i.source with
      | none => rfl
      | some source' =>
        cases source' with
        | memory content => rfl
        | channel c => rfl
        | external key => exact absurd source (inside key)
    · rfl
  rw [fed_iff, nobody]
  exact ⟨rfl,h⟩

end Input

section Channels

open Channel

variable {E : Type} [ExternalSources E] {sent moved : List Feed} {c : Channel}

omit [ExternalSources E] in
theorem Channel.Ended.cause {cause : Option Failure} (ended : Ended moved c cause)
    (order : sent = moved ++ c.waiting) (finishes : sent.find? Feed.closes = some .finish) : cause = none := by
  cases ended with
  | @closed f last =>
    rw [order, List.find?_append, last, Option.some_or] at finishes
    cases finishes
    rfl
  | early gone empty unended =>
    have unclosed : moved.find? Feed.closes = none := by simpa using unended
    rw [order, empty, List.append_nil, unclosed] at finishes
    cases finishes

theorem Reading.holds {id : ChannelId} {feeders : Nat} {out : Octets} {i : Input}
    (h : Reading id sent feeders out i) (finishes : sent.find? Feed.closes = some .finish) (e : E) :
    ∃ rest, bodyOf sent = out ++ rest ∧ Input.Holds (i,e) rest := by
  obtain ⟨c,moved,reads,-,-,conveyed⟩ := h.channel
  have standing := conveyed.standing
  generalize failed : i.failure = failure at standing
  cases standing with
  | going opened goesOn unended =>
    have unfound : moved.find? Feed.closes = none := by simpa using unended
    have waits : c.waiting.find? Feed.closes = some .finish := by
      rwa [conveyed.order, List.find?_append, unfound, Option.none_or] at finishes
    refine ⟨_,?_,.sourced failed goesOn reads (Source.brings_channel opened waits e)⟩
    rw [← List.append_assoc, conveyed.kept, conveyed.order, bodyOf_append, unended]
    rfl
  | stopped closed pulled finished ended recorded =>
    have clean := recorded.trans (ended.cause conveyed.order finishes)
    exact ⟨_,(conveyed.whole finished).symm,.ended failed finished clean⟩
  | reported closed pulled finished ended =>
    cases ended.cause conveyed.order finishes

/-- However the feeders and the reader took turns, if the body was finished the input holds what was
not read of it. -/
theorem Exchange.fed (timeout : Nat) (expectsContinue : Bool) (id : ChannelId) (queue : List Feed)
    (pending : Option Feed) (watched : Bool) (feeders : Nat) (e : E) (turns : List Turn) :
    let x := turns.foldl (step id) (start timeout expectsContinue id queue pending watched feeders e)
    x.sent.find? Feed.closes = some .finish →
      ∃ rest, bodyOf x.sent = x.out ++ rest ∧ Input.Fed (x.input,x.env) rest := by
  intro x finishes
  have fresh : (start timeout expectsContinue id queue pending watched feeders e).Faithful id :=
    ⟨⟨_,[],rfl,rfl,rfl,⟨rfl,rfl,.going rfl rfl rfl⟩⟩,rfl⟩
  have reading : x.Faithful id := run_faithful fresh turns
  obtain ⟨rest,parts,holds⟩ := reading.holds finishes x.env
  obtain ⟨c,-,reads,-⟩ := reading.channel
  refine ⟨rest,parts,holds.fed fun key external => ?_⟩
  rw [reads] at external
  cases external

end Channels

end HttpRequest.Body
