import HttpRequest.Proofs.Body.Arrival

/-! # Conveyance through a channel

Feeds go from the queue, some of them by way of the one that was pulled out, into the buffer and from
there to the reader. The invariant parts the feeds that were sent into those that were moved into the
buffer and those that wait: what was read and what is buffered is the body of the moved ones, and an end
is marked only once the feed that closes has been moved, or all have and no feeder is left.
-/
namespace HttpRequest.Body

def Feed.failure? : Feed → Option Failure
  | .abort reason => some (.io ⟨.connectionAborted, reason⟩)
  | _ => none

namespace Channel

def bodyOf (feeds : List Feed) : Octets :=
  Delivery.bytesOf (feeds.map Feed.delivery)

theorem bodyOf_chunk (bytes : Octets) (rest : List Feed) :
    bodyOf (.chunk bytes :: rest) = bytes ++ bodyOf rest := rfl

theorem bodyOf_of_closes {f : Feed} (closes : f.closes = true) (rest : List Feed) :
    bodyOf (f :: rest) = [] := by
  cases f with
  | chunk bytes => cases closes
  | finish => rfl
  | abort reason => rfl

theorem bodyOf_append (first rest : List Feed) :
    bodyOf (first ++ rest) = bodyOf first ++ if first.any Feed.closes then [] else bodyOf rest := by
  induction first with
  | nil => rfl
  | cons f first ih =>
    by_cases closes : f.closes = true
    · simp [bodyOf_of_closes closes, closes]
    · cases f with
      | chunk bytes =>
        have goesOn : (Feed.chunk bytes).closes = false := rfl
        simp only [List.cons_append, bodyOf_chunk, ih, List.any_cons, goesOn, Bool.false_or,
          List.append_assoc]
      | finish => exact absurd rfl closes
      | abort reason => exact absurd rfl closes

theorem through_spec (feeds : List Feed) :
    (through feeds).find? Feed.closes = feeds.find? Feed.closes ∧ bodyOf (through feeds) = bodyOf feeds := by
  induction feeds with
  | nil => exact ⟨rfl,rfl⟩
  | cons f rest ih =>
    unfold through
    split
    next closes =>
      refine ⟨by simp [closes],?_⟩
      have parted := bodyOf_append [f] rest
      simp only [List.any_cons, closes, Bool.true_or, if_true, List.append_nil] at parted
      exact parted.symm
    next goesOn =>
      refine ⟨by simp [goesOn, ih.1],?_⟩
      have before := bodyOf_append [f] (through rest)
      have after := bodyOf_append [f] rest
      rw [ih.2] at before
      exact before.trans after.symm

theorem drain_spec {b : Buffer} (goesOn : b.finished = false) (feeds : List Feed) :
    (drain feeds b).2.2.bytes = b.bytes ++ bodyOf feeds ∧
      (drain feeds b).2.2.finished = feeds.any Feed.closes ∧
      (drain feeds b).2.2.failure = (feeds.find? Feed.closes).bind Feed.failure? := by
  have unfailed := Buffer.failure_eq_none goesOn
  induction feeds generalizing b with
  | nil => simp [drain, bodyOf, Delivery.bytesOf, goesOn, unfailed]
  | cons f rest ih =>
    cases f with
    | chunk bytes =>
      have closes : (Feed.chunk bytes).closes = false := rfl
      have pushed : (b.push bytes).failure = none := by
        unfold Buffer.push
        split <;> exact unfailed
      have later := ih (b := b.push bytes) (by simp [goesOn]) pushed
      simp only [Buffer.bytes_push, goesOn, Bool.false_eq_true, if_false, List.append_assoc] at later
      simp only [drain, closes, Bool.false_eq_true, if_false, Feed.delivery, Buffer.receive,
        bodyOf_chunk, List.any_cons, Bool.false_or, List.find?_cons_of_neg, not_false_eq_true]
      exact later
    | finish => exact ⟨(List.append_nil _).symm,rfl,unfailed⟩
    | abort reason =>
      refine ⟨(List.append_nil _).symm,rfl,?_⟩
      change b.failure.or _ = _
      rw [unfailed]
      rfl

/-- Why a channel has ended, given the feeds that were moved out of it: with the first one that
closes, or because no feeder is left to send one. -/
inductive Ended (moved : List Feed) (c : Channel) : Option Failure → Prop
  | closed {f : Feed} (last : moved.find? Feed.closes = some f) : Ended moved c f.failure?
  | early (gone : c.feeders = 0) (empty : c.waiting = [])
      (unended : moved.any Feed.closes = false) : Ended moved c (some .earlyEof)

theorem Ended.finished {moved : List Feed} {c : Channel} (ended : Ended moved c none) :
    moved.find? Feed.closes = some .finish := by
  generalize marked : (none : Option Failure) = cause at ended
  cases ended with
  | @closed f last =>
    cases f with
    | chunk bytes => exact absurd (List.find?_some last) nofun
    | finish => exact last
    | abort reason => cases marked
  | early => cases marked

theorem Ended.ne_timeout {moved : List Feed} {c : Channel} {f : Failure}
    (ended : Ended moved c (some f)) : f.again ≠ .timeout := by
  generalize marked : some f = cause at ended
  cases ended with
  | @closed g last =>
    cases g with
    | chunk bytes => cases marked
    | finish => cases marked
    | abort reason => cases marked; exact nofun
  | early => cases marked; exact nofun

/-- How a channel, the buffer that it fills and the failure of the reader stand: the body goes on, or
it is over, and a failure that ended it is still in the buffer or has reached the reader behind the
bytes. -/
inductive Standing (moved : List Feed) (c : Channel) (b : Buffer) : Option Failure → Prop
  | going (opened : c.closed = false) (goesOn : b.finished = false)
      (unended : moved.any Feed.closes = false) : Standing moved c b none
  | stopped {cause : Option Failure} (closed : c.closed = true) (pulled : c.pending = none)
      (finished : b.finished = true) (ended : Ended moved c cause) (recorded : b.failure = cause) :
      Standing moved c b none
  | reported {f : Failure} (closed : c.closed = true) (pulled : c.pending = none)
      (finished : b.finished = true) (ended : Ended moved c (some f)) (unrecorded : b.failure = none)
      (empty : b.bytes = []) : Standing moved c b (some f)

/-- What feeders sent reaches the reader in order: the moved feeds are read or buffered, and the others
wait. -/
structure Conveyed (sent moved : List Feed) (out : Octets) (c : Channel) (b : Buffer)
    (failure : Option Failure) : Prop where
  order : sent = moved ++ c.waiting
  kept : out ++ b.bytes = bodyOf moved
  standing : Standing moved c b failure

theorem Conveyed.produce {sent moved : List Feed} {out : Octets} {c : Channel} {b : Buffer}
    {failure : Option Failure} (h : Conveyed sent moved out c b failure) (goesOn : b.finished = false) :
    ∃ more, Conveyed sent more out (c.produce b).1 (c.produce b).2 failure ∧
      (c.produce b).1.id = c.id ∧ (c.produce b).1.feeders = c.feeders ∧
      ((c.produce b).2.finished = false → (c.produce b).1.waiting = [] ∧ c.feeders ≠ 0) := by
  obtain ⟨order,kept,standing⟩ := h
  cases standing with
  | stopped closed pulled finished => simp [goesOn] at finished
  | reported closed pulled finished => simp [goesOn] at finished
  | going opened goesOn unended =>
    obtain ⟨bytes,finished,failure⟩ := drain_spec goesOn c.waiting
    -- `found` says whether an end was met; what is behind it stays in the queue
    have ends := drain_fst c.waiting b
    have parted := through_append_drain c.waiting b
    have counted := (through_spec c.waiting).2
    have last := (through_spec c.waiting).1
    rw [produce_of_open opened]
    generalize drain c.waiting b = drained at bytes finished failure ends parted
    obtain ⟨found,rest,left⟩ := drained
    dsimp only at bytes finished failure ends parted
    have keeps : out ++ left.bytes = bodyOf (moved ++ c.waiting) := by
      rw [bodyOf_append, unended, ← kept, bytes]
      simp
    cases found with
    | true =>
      have closes : (c.waiting.find? Feed.closes).isSome :=
        List.find?_isSome.mpr (List.any_eq_true.mp ends.symm)
      obtain ⟨f,first⟩ := Option.isSome_iff_exists.mp closes
      have unfound : moved.find? Feed.closes = none := by simpa using unended
      refine ⟨moved ++ through c.waiting,⟨?_,?_,?_⟩,rfl,rfl,?_⟩
      · change sent = (moved ++ through c.waiting) ++ rest
        rw [List.append_assoc, parted, order]
      · rw [keeps, bodyOf_append, bodyOf_append, counted]
      · refine .stopped rfl rfl (finished.trans ends.symm) (.closed (f := f) ?_) ?_
        · rw [List.find?_append, unfound, last, first]
          rfl
        · rw [failure, first]
          rfl
      · intro goesOn
        rw [finished, ← ends] at goesOn
        cases goesOn
    | false =>
      have unfound : c.waiting.find? Feed.closes = none := by simpa using ends.symm
      have unfinished : (moved ++ c.waiting).any Feed.closes = false := by
        rw [List.any_append, unended, ← ends]
        rfl
      rw [unfound] at failure
      dsimp only
      split
      next gone =>
        refine ⟨moved ++ c.waiting,⟨?_,keeps,?_⟩,rfl,rfl,nofun⟩
        · simp [order, waiting]
        · refine .stopped rfl rfl rfl (.early gone rfl unfinished) ?_
          change left.failure.or _ = _
          rw [failure]
          rfl
      next present =>
        refine ⟨moved ++ c.waiting,⟨?_,keeps,?_⟩,rfl,rfl,fun _ => ⟨rfl,present⟩⟩
        · simp [order, waiting]
        · exact .going opened (finished.trans ends.symm) unfinished

section Changes
variable {sent moved : List Feed} {out : Octets} {c d : Channel} {b : Buffer} {failure : Option Failure}

theorem waiting_pull (c : Channel) : c.pull.2.waiting = c.waiting := by
  unfold pull
  split
  · rfl
  next unpulled =>
    simp only [Bool.or_eq_true, not_or, Option.not_isSome_iff_eq_none] at unpulled
    split
    next f rest queue => simp [waiting, unpulled.1, queue]
    · rfl

theorem pull_same (c : Channel) :
    c.pull.2.id = c.id ∧ c.pull.2.closed = c.closed ∧ c.pull.2.feeders = c.feeders ∧
      (c.closed = true → c.pull.2.pending = c.pending) := by
  unfold pull
  split
  · exact ⟨rfl,rfl,rfl,fun _ => rfl⟩
  next unpulled =>
    split
    · refine ⟨rfl,rfl,rfl,?_⟩
      intro closed
      simp [closed] at unpulled
    · exact ⟨rfl,rfl,rfl,fun _ => rfl⟩

theorem pull_eq_false_iff :
    c.pull.1 = false ↔ c.closed = false ∧ c.waiting = [] ∧ c.feeders ≠ 0 := by
  obtain ⟨id,queue,pending,closed,watched,feeders⟩ := c
  cases pending with
  | some f => simp [pull, waiting]
  | none => cases closed <;> cases queue <;> simp [pull, waiting]

theorem pull_of_false (nothing : c.pull.1 = false) : c.pull = (false,c) := by
  obtain ⟨opened,empty,present⟩ := pull_eq_false_iff.mp nothing
  obtain ⟨pulled,queue⟩ := List.append_eq_nil_iff.mp empty
  have pulled : c.pending = none := by simpa using pulled
  simp [pull, pulled, opened, queue, present]

theorem Standing.congr (h : Standing moved c b failure) (closed : d.closed = c.closed)
    (pulled : c.closed = true → d.pending = c.pending)
    (ends : ∀ cause, Ended moved c cause → Ended moved d cause) : Standing moved d b failure := by
  cases h with
  | going opened goesOn unended => exact .going (closed.trans opened) goesOn unended
  | stopped shut none finished ended recorded =>
    exact .stopped (closed.trans shut) ((pulled shut).trans none) finished (ends _ ended) recorded
  | reported shut none finished ended unrecorded empty =>
    exact .reported (closed.trans shut) ((pulled shut).trans none) finished (ends _ ended) unrecorded empty

theorem Conveyed.of_waiting (h : Conveyed sent moved out c b failure) (waiting : d.waiting = c.waiting)
    (closed : d.closed = c.closed) (feeders : d.feeders = c.feeders)
    (pulled : c.closed = true → d.pending = c.pending) : Conveyed sent moved out d b failure := by
  refine ⟨by rw [h.order, waiting],h.kept,h.standing.congr closed pulled ?_⟩
  intro cause ended
  cases ended with
  | closed last => exact .closed last
  | early gone empty unended => exact .early (feeders.trans gone) (waiting.trans empty) unended

theorem Conveyed.of_feeders (h : Conveyed sent moved out c b failure) (present : c.feeders ≠ 0)
    {new : List Feed} (waiting : d.waiting = c.waiting ++ new) (closed : d.closed = c.closed)
    (pulled : d.pending = c.pending) : Conveyed (sent ++ new) moved out d b failure := by
  refine ⟨?_,h.kept,h.standing.congr closed (fun _ => pulled) ?_⟩
  · rw [h.order, waiting, List.append_assoc]
  · intro cause ended
    cases ended with
    | closed last => exact .closed last
    | early gone => exact absurd gone present

theorem Conveyed.take (h : Conveyed sent moved out c b failure) (n : Nat) :
    Conveyed sent moved (out ++ (b.take n).1) c (b.take n).2 failure := by
  refine ⟨h.order,?_,?_⟩
  · rw [← h.kept]
    simp
  · cases h.standing with
    | going opened goesOn unended => exact .going opened goesOn unended
    | stopped closed pulled finished ended recorded => exact .stopped closed pulled finished ended recorded
    | reported closed pulled finished ended unrecorded empty =>
      exact .reported closed pulled finished ended unrecorded (by simp [empty])

theorem Conveyed.report (h : Conveyed sent moved out c b none) {f : Failure} (empty : b.bytes = [])
    (recorded : b.failure = some f) : Conveyed sent moved out c b.takeFailure.2 (some f) := by
  refine ⟨h.order,h.kept,?_⟩
  cases h.standing with
  | going opened goesOn unended => simpa [goesOn] using b.ended (by simp [recorded])
  | stopped closed pulled finished ended cause =>
    rw [recorded] at cause
    subst cause
    exact .reported closed pulled finished ended rfl empty

theorem Conveyed.whole (h : Conveyed sent moved out c b failure) (finished : b.finished = true) :
    out ++ b.bytes = bodyOf sent := by
  have all {cause : Option Failure} (ended : Ended moved c cause) : bodyOf sent = bodyOf moved := by
    rw [h.order, bodyOf_append]
    cases ended with
    | closed last =>
      have closes : moved.any Feed.closes = true := by
        rw [List.any_eq_true]
        exact ⟨_,List.mem_of_find?_eq_some last,List.find?_some last⟩
      simp [closes]
    | early gone empty unended => simp [empty, unended, bodyOf, Delivery.bytesOf]
  rw [h.kept]
  cases h.standing with
  | going opened goesOn => simp [goesOn] at finished
  | stopped closed pulled finished ended => exact (all ended).symm
  | reported closed pulled finished ended => exact (all ended).symm

theorem Conveyed.out_prefix (h : Conveyed sent moved out c b failure) : out <+: bodyOf sent := by
  rw [h.order, bodyOf_append, ← h.kept, List.append_assoc]
  exact List.prefix_append _ _

end Changes

end Channel

end HttpRequest.Body
