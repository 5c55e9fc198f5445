import HttpRequest.Proofs.Body.Conduct

/-! # Agreement of an input with its account

Before a listener is set there is no account and nothing was told. From then on the account agrees with
the four flags of the input: what was told shows in the flags, and accepted bytes that were not read
are still buffered, unless the input was broken. Every step keeps this, whichever source it acts on.
-/
namespace HttpRequest.Body

open Input

structure Unheard (i : Input) : Prop where
  listener : i.listener = none
  pacing : i.pacing = .blocking
  failureTold : i.failureTold = false
  endTold : i.endTold = false
  drained : i.failure.isSome → i.buffer.bytes = []

structure Sound (i : Input) (a : Account) : Prop where
  pacing : i.pacing = .async
  word : ∃ k : Nat, a.told.map Told.kind = List.replicate k .data ++
    (if i.endTold then [.ended] else []) ++ (if i.failureTold then [.failed] else [])
  proper : ∀ t ∈ a.told, t.Proper
  refused : ∀ r ∈ a.refused, r.2.Spent
  failed : i.failureTold → i.failure.isSome
  ended : i.endTold → i.buffer.finished ∧ i.buffer.bytes = []
  broken : a.broken → i.failure.isSome
  kept : a.broken ∨ a.given ++ i.buffer.bytes = a.accepted
  drained : i.failure.isSome → a.broken ∨ i.buffer.bytes = []

namespace Sound

variable {i j : Input} {a : Account}

theorem orderly (h : Sound i a) : a.Orderly := by
  obtain ⟨k,word⟩ := h.word
  exact ⟨⟨k,i.endTold,i.failureTold,word⟩,h.proper,h.refused⟩

theorem failureUntold (h : Sound i a) (unfailed : i.failure = none) : i.failureTold = false := by
  cases told : i.failureTold with
  | false => rfl
  | true => simpa [unfailed] using h.failed told

theorem unbroken (h : Sound i a) (unfailed : i.failure = none) : a.broken = false := by
  cases broken : a.broken with
  | false => rfl
  | true => simpa [unfailed] using h.broken broken

theorem endUntold (h : Sound i a) (goesOn : i.buffer.finished = false ∨ i.buffer.bytes ≠ []) :
    i.endTold = false := by
  cases told : i.endTold with
  | false => rfl
  | true =>
    obtain ⟨finished,empty⟩ := h.ended told
    rcases goesOn with goesOn | content
    · simp [finished] at goesOn
    · exact absurd empty content

theorem proper_tell (h : Sound i a) {t : Told} (proper : t.Proper) : ∀ u ∈ (a.tell t).told, u.Proper :=
  List.forall_mem_append.mpr ⟨h.proper,List.forall_mem_singleton.mpr proper⟩

theorem congr (h : Sound i a) (course : SameCourse i j) (buffer : j.buffer = i.buffer) : Sound j a := by
  obtain ⟨pacing,word,proper,refused,failed,ended,broken,kept,drained⟩ := h
  rw [← course.pacing] at pacing
  rw [← course.endTold] at word ended
  rw [← course.failureTold] at word failed
  rw [← course.failure] at failed broken drained
  rw [← buffer] at ended kept drained
  exact ⟨pacing,word,proper,refused,failed,ended,broken,kept,drained⟩

theorem spent (h : Sound i a) (empty : i.failure.isSome ∨ i.buffer.bytes = []) : a.Spent := by
  rcases h.kept with broken | kept
  · exact .inl broken
  · rcases empty with failed | empty
    · rcases h.drained failed with broken | empty
      · exact .inl broken
      · exact .inr (by rw [← kept, empty, List.append_nil])
    · exact .inr (by rw [← kept, empty, List.append_nil])

theorem request {E : Type} [ExternalSources E] {s : Input × E} (h : Sound s.1 a) :
    Sound (requestMore s).1 (a.accept (Delivery.bytesOf (incoming s))) := by
  by_cases settled : s.1.settled = true
  · rw [requestMore_of_settled settled, incoming_of_settled settled]
    simpa [Account.accept, Delivery.bytesOf] using h
  · obtain ⟨unfailed,goesOn,empty⟩ := unsettled settled
    have untold := h.endUntold (.inl goesOn)
    have course := requestMore_course s
    have failure : (requestMore s).1.failure = none := course.failure.trans unfailed
    have bytes := requestMore_bytes s
    rw [empty, List.nil_append] at bytes
    refine ⟨course.pacing.trans h.pacing,?_,h.proper,h.refused,?_,?_,?_,?_,?_⟩
    · rw [course.endTold, course.failureTold]
      exact h.word
    · rw [course.failureTold, course.failure]
      exact h.failed
    · simp [course.endTold, untold]
    · rw [course.failure]
      exact h.broken
    · refine h.kept.imp_right ?_
      intro kept
      rw [bytes]
      simp [Account.accept, ← kept, empty]
    · simp [failure]

theorem refuse (h : Sound i a) (empty : i.failure.isSome ∨ i.buffer.bytes = []) (f : Failure) :
    Sound i (a.settle (.error f)) := by
  have refused : ∀ r ∈ (a.settle (.error f)).refused, r.2.Spent :=
    List.forall_mem_append.mpr ⟨h.refused,List.forall_mem_singleton.mpr (h.spent empty)⟩
  exact ⟨h.pacing,h.word,h.proper,refused,h.failed,h.ended,h.broken,h.kept,h.drained⟩

theorem settle_nil (h : Sound i a) : Sound i (a.settle (.ok [])) := by
  simpa [Account.settle] using h

theorem readBuffered (h : Sound i a) (n : Nat) :
    Sound (readBuffered n i).2 (a.settle (Input.readBuffered n i).1) := by
  unfold Input.readBuffered
  split
  next content =>
    refine ⟨h.pacing,h.word,h.proper,h.refused,h.failed,?_,h.broken,?_,?_⟩
    · intro told
      have empty := (h.ended told).2
      exact ⟨(h.ended told).1,by simp [empty]⟩
    · refine h.kept.imp_right ?_
      intro kept
      simp [Account.settle, kept]
    · intro failed
      exact (h.drained failed).imp_right fun empty => by simp [empty]
  next contentless =>
    have empty := i.buffer.hasContent_eq_false_iff.mp (by simpa using contentless)
    split
    next f recorded =>
      have told := h.refuse (.inr empty) f.again
      exact ⟨told.pacing,told.word,told.proper,told.refused,fun _ => rfl,told.ended,fun _ => rfl,
        told.kept,fun _ => .inr empty⟩
    next => exact h.settle_nil

theorem read {E : Type} [ExternalSources E] {s : Input × E} (h : Sound s.1 a) {n : Nat} (nonzero : n ≠ 0) :
    Sound (read n s).2.1
      ((a.accept (Delivery.bytesOf (incoming s))).settle (Input.read n s).1) := by
  have more := h.request
  unfold Input.read
  cases unfailed : s.1.failure with
  | some f =>
    have failed : s.1.failure.isSome := by simp [unfailed]
    rw [requestMore_of_settled (settled_of_failure failed)] at more
    exact more.refuse (.inl failed) f.again
  | none =>
    dsimp only
    rw [if_neg nonzero]
    rcases prepare_of_async h.pacing with ⟨ready,-⟩ | ⟨refused,empty,-⟩
    · rw [ready]
      exact more.readBuffered n
    · rw [refused]
      exact more.refuse (.inr empty) _

theorem read_zero {E : Type} [ExternalSources E] {s : Input × E} (h : Sound s.1 a) :
    Sound (Input.read 0 s).2.1 (a.settle (Input.read 0 s).1) := by
  unfold Input.read
  cases failure : s.1.failure with
  | some f => exact h.refuse (.inl (by simp [failure])) f.again
  | none => exact h.settle_nil

theorem fail (h : Sound i a) (f : Failure) :
    Sound (i.fail f).2 (if (i.fail f).1 then a.spoil else a) := by
  unfold Input.fail
  split
  · exact h
  · exact ⟨h.pacing,h.word,h.proper,h.refused,fun _ => rfl,fun told => ⟨(h.ended told).1,rfl⟩,
      fun _ => rfl,.inl rfl,fun _ => .inl rfl⟩

theorem spoil (h : Sound i a) (f : Failure) : Sound { i with failure := some f } a.spoil :=
  ⟨h.pacing,h.word,h.proper,h.refused,fun _ => rfl,h.ended,fun _ => rfl,.inl rfl,fun _ => .inl rfl⟩

theorem surface (h : Sound i a) : Sound i.surfaceFailure a := by
  unfold surfaceFailure
  split
  next surfaces =>
    obtain ⟨unfailed,empty⟩ := Bool.and_eq_true_iff.mp surfaces
    have unfailed : i.failure = none := Option.isNone_iff_eq_none.mp unfailed
    have empty := i.buffer.hasContent_eq_false_iff.mp (by simpa using empty)
    refine ⟨h.pacing,h.word,h.proper,h.refused,?_,h.ended,?_,h.kept,fun _ => .inr empty⟩
    · intro told
      simpa [unfailed] using h.failed told
    · intro broken
      simpa [unfailed] using h.broken broken
  · exact h

theorem tellData (h : Sound i a) (unfailed : i.failure = none) (content : i.buffer.bytes ≠ []) :
    Sound i (a.tell (.data i.buffer.bytes)) := by
  have failureTold := h.failureUntold unfailed
  have endTold := h.endUntold (.inr content)
  obtain ⟨k,word⟩ := h.word
  refine ⟨h.pacing,⟨k + 1,?_⟩,h.proper_tell content,h.refused,h.failed,h.ended,h.broken,h.kept,h.drained⟩
  simp [failureTold, endTold] at word
  simp [Account.tell, failureTold, endTold, word, Told.kind, List.replicate_succ']

theorem tellEnd (h : Sound i a) (unfailed : i.failure = none) (finished : i.isFinished = true)
    (untold : i.endTold = false) :
    Sound { i with endTold := true } (a.tell (.ended i.failure a.toTally)) := by
  obtain ⟨finished,empty⟩ := Bool.and_eq_true_iff.mp finished
  have empty := i.buffer.hasContent_eq_false_iff.mp (by simpa using empty)
  have failureTold := h.failureUntold unfailed
  have unbroken := h.unbroken unfailed
  have given : a.given = a.accepted := by
    have kept := h.kept.resolve_left (by simp [unbroken])
    rw [← kept, empty, List.append_nil]
  obtain ⟨k,word⟩ := h.word
  refine ⟨h.pacing,⟨k,?_⟩,h.proper_tell ⟨unfailed,given⟩,h.refused,h.failed,
    fun _ => ⟨finished,empty⟩,h.broken,h.kept,h.drained⟩
  simp [failureTold, untold] at word
  simp [Account.tell, failureTold, word, Told.kind]

theorem tellFailure (h : Sound i a) (failed : i.failure.isSome) (untold : i.failureTold = false)
    (f : Failure) : Sound { i with failureTold := true } (a.tell (.failed f a.toTally)) := by
  obtain ⟨k,word⟩ := h.word
  refine ⟨h.pacing,⟨k,?_⟩,h.proper_tell (h.spent (.inl failed)),h.refused,fun _ => failed,h.ended,
    h.broken,h.kept,h.drained⟩
  simp only [untold, Bool.false_eq_true, if_false, List.append_nil] at word
  simp [Account.tell, word, Told.kind]

theorem opened (h : Unheard i) {l : ListenerKey} (set : i.setListener l = .ok j) :
    Sound j { accepted := i.buffer.bytes } := by
  unfold setListener at set
  split at set
  · cases set
  · split at set
    · cases set
    · cases set
      refine ⟨rfl,⟨0,?_⟩,nofun,nofun,?_,?_,nofun,.inr rfl,fun failed => .inr (h.drained failed)⟩
      · simp [h.endTold, h.failureTold]
      · simp [h.failureTold]
      · simp [h.endTold]

end Sound

namespace Unheard

variable {i j : Input}

theorem congr (h : Unheard i) (course : SameCourse i j)
    (drained : i.failure.isSome → j.buffer.bytes = []) : Unheard j where
  listener := course.listener.trans h.listener
  pacing := course.pacing.trans h.pacing
  failureTold := course.failureTold.trans h.failureTold
  endTold := course.endTold.trans h.endTold
  drained failed := drained (by rwa [course.failure] at failed)

theorem request {E : Type} [ExternalSources E] {s : Input × E} (h : Unheard s.1) :
    Unheard (requestMore s).1 := by
  refine h.congr (requestMore_course s) ?_
  intro failed
  rw [requestMore_of_settled (settled_of_failure failed)]
  exact h.drained failed

theorem readBuffered (h : Unheard i) (unfailed : i.failure = none) (n : Nat) :
    Unheard (readBuffered n i).2 := by
  unfold Input.readBuffered
  split
  · exact ⟨h.listener,h.pacing,h.failureTold,h.endTold,fun failed => by simp [unfailed] at failed⟩
  next contentless =>
    have empty := i.buffer.hasContent_eq_false_iff.mp (by simpa using contentless)
    split
    · exact ⟨h.listener,h.pacing,h.failureTold,h.endTold,fun _ => empty⟩
    · exact h

theorem read {E : Type} [ExternalSources E] {s : Input × E} (h : Unheard s.1) (n : Nat) :
    Unheard (read n s).2.1 := by
  unfold Input.read
  cases unfailed : s.1.failure with
  | some f => exact h
  | none =>
    dsimp only
    split
    · exact h
    · have course := prepare_course s
      have prepared : Unheard (prepare s).2.1 := h.congr course (by simp [unfailed])
      split
      next f t refused =>
        rw [refused] at prepared
        exact prepared
      next i e ready =>
        rw [ready] at prepared course
        exact prepared.readBuffered (course.failure.trans unfailed) n

theorem fail (h : Unheard i) (f : Failure) : Unheard (i.fail f).2 := by
  unfold Input.fail
  split
  · exact h
  · exact ⟨h.listener,h.pacing,h.failureTold,h.endTold,fun _ => rfl⟩

end Unheard

def Accounted {E : Type} (s : Input × Audited E) : Prop :=
  match s.2.account with
  | none => Unheard s.1
  | some a => Sound s.1 a

section Acts
variable {E : Type}

theorem accounted_none {s : Input × Audited E} (account : s.2.account = none) :
    Accounted s ↔ Unheard s.1 := by
  simp only [Accounted, account]

theorem accounted_some {s : Input × Audited E} {a : Account} (account : s.2.account = some a) :
    Accounted s ↔ Sound s.1 a := by
  simp only [Accounted, account]

theorem Accounted.congr {s t : Input × Audited E} (h : Accounted s)
    (account : t.2.account = s.2.account) (course : SameCourse s.1 t.1)
    (buffer : t.1.buffer = s.1.buffer) : Accounted t := by
  cases kept : s.2.account with
  | none =>
    have unheard := (accounted_none kept).mp h
    refine (accounted_none (account.trans kept)).mpr (unheard.congr course ?_)
    intro failed
    rw [buffer]
    exact unheard.drained failed
  | some a =>
    have sound := (accounted_some kept).mp h
    exact (accounted_some (account.trans kept)).mpr (sound.congr course buffer)

variable [ExternalSources E]

theorem requestMore_account (s : Input × Audited E) :
    (requestMore s).2.account = s.2.account := by
  obtain ⟨i,e⟩ := s
  unfold requestMore
  dsimp only
  split
  · rfl
  · match i.source with
    | none => rfl
    | some (.memory _) => rfl
    | some (.channel _) => rfl
    | some (.external _) => rfl

theorem watch_account (s : Input × Audited E) : (watch s).2.account = s.2.account := by
  obtain ⟨i,e⟩ := s
  unfold watch
  dsimp only
  match i.source with
  | none => rfl
  | some (.memory _) => rfl
  | some (.channel _) => rfl
  | some (.external _) => rfl

theorem wait_account (source : Source) (milliseconds : Nat) (e : Audited E) :
    (source.wait milliseconds e).2.2.account = e.account := by
  unfold Source.wait
  split
  · rfl
  · split <;> rfl
  · rfl

theorem settleWithin_account (n : Nat) (s : Input × Audited E) :
    (settleWithin n s).2.2.account = s.2.account := by
  induction n generalizing s with
  | zero => rfl
  | succ n ih =>
    have asked := requestMore_account s
    unfold settleWithin
    split
    next i e more =>
      rw [more] at asked
      dsimp only at asked
      split
      · exact asked
      · split
        · exact asked
        next source present =>
          have waited := wait_account source i.timeout e
          split
          next waits => rw [waits] at waited; exact waited.trans asked
          next waits =>
            rw [waits] at waited
            rw [ih]
            exact waited.trans asked

theorem prepare_account (s : Input × Audited E) : (prepare s).2.2.account = s.2.account := by
  cases pacing : s.1.pacing with
  | async =>
    rcases prepare_of_async pacing with ⟨ready,-⟩ | ⟨refused,-⟩
    · rw [ready]
      exact requestMore_account s
    · rw [refused]
      exact requestMore_account s
  | blocking =>
    unfold prepare
    rw [pacing]
    exact settleWithin_account _ s

theorem read_account (n : Nat) (s : Input × Audited E) :
    (read n s).2.2.account = s.2.account := by
  unfold Input.read
  split
  · rfl
  · split
    · rfl
    · have prepared := prepare_account s
      split
      next refused => rw [refused] at prepared; exact prepared
      next ready => rw [ready] at prepared; exact prepared

theorem incoming_acceptIncoming (s : Input × Audited E) :
    incoming (acceptIncoming s) = incoming s := by
  obtain ⟨i,e⟩ := s
  unfold incoming acceptIncoming
  dsimp only
  split
  · rfl
  · match i.source with
    | none => rfl
    | some (.memory _) => rfl
    | some (.channel _) => rfl
    | some (.external _) => rfl

theorem acceptIncoming_account {s : Input × Audited E} {a : Account} (account : s.2.account = some a) :
    (acceptIncoming s).2.account = some (a.accept (Delivery.bytesOf (incoming s))) := by
  simp [acceptIncoming, Audited.note, account]

theorem acceptIncoming_none {s : Input × Audited E} (account : s.2.account = none) :
    (acceptIncoming s).2.account = none := by
  simp [acceptIncoming, Audited.note, account]

theorem Accounted.request {s : Input × Audited E} (h : Accounted s) :
    Accounted (requestMore (acceptIncoming s)) := by
  have asked := requestMore_account (acceptIncoming s)
  cases account : s.2.account with
  | none =>
    have unheard : Unheard (acceptIncoming s).1 := (accounted_none account).mp h
    exact (accounted_none (asked.trans (acceptIncoming_none account))).mpr unheard.request
  | some a =>
    have sound : Sound (acceptIncoming s).1 a := (accounted_some account).mp h
    have more := sound.request
    rw [incoming_acceptIncoming] at more
    exact (accounted_some (asked.trans (acceptIncoming_account account))).mpr more

theorem Accounted.watch {s : Input × Audited E} (h : Accounted s) : Accounted (watch s) :=
  h.congr (watch_account s) (watch_course s).1 (watch_course s).2

theorem Accounted.read {s : Input × Audited E} (h : Accounted s) (n : Nat) :
    Accounted ((Act.read n).run s) := by
  cases account : s.2.account with
  | none =>
    have unheard := (accounted_none account).mp h
    have begun : (if n = 0 then s else acceptIncoming s).2.account = none := by
      split
      · exact account
      · exact acceptIncoming_none account
    have same : (if n = 0 then s else acceptIncoming s).1 = s.1 := by split <;> rfl
    rw [← same] at unheard
    refine (accounted_none ?_).mpr (unheard.read n)
    simp only [Act.run, Audited.note, read_account, begun, Option.map_none]
  | some a =>
    have sound := (accounted_some account).mp h
    by_cases some : n = 0
    · subst some
      have kept := read_account 0 s
      refine (accounted_some (a := a.settle (Input.read 0 s).1) ?_).mpr sound.read_zero
      simp only [Act.run, Audited.note, if_pos, kept, account, Option.map_some]
    · have accepts := read_account n (acceptIncoming s)
      rw [acceptIncoming_account account, ← incoming_acceptIncoming] at accepts
      have run : (Act.read n).run s = ((Input.read n (acceptIncoming s)).2.1,
          (Input.read n (acceptIncoming s)).2.2.note (·.settle (Input.read n (acceptIncoming s)).1)) := by
        simp only [Act.run, if_neg some]
      rw [run]
      have after : Sound (acceptIncoming s).1 a := sound
      refine (accounted_some ?_).mpr (after.read some)
      simp only [Audited.note, accepts, Option.map_some]

theorem Accounted.isReady {s : Input × Audited E} (h : Accounted s) :
    Accounted (Act.isReady.run s) := by
  change Accounted (Input.isReady (acceptIncoming s)).2
  unfold Input.isReady
  cases pacing : (acceptIncoming s).1.pacing with
  | async =>
    have asked := h.request
    dsimp only
    split
    · exact asked
    · exact asked.watch
  | blocking =>
    -- a blocking input has no listener, so there is no account to change
    cases account : s.2.account with
    | none => exact (accounted_none (acceptIncoming_none account)).mpr ((accounted_none account).mp h)
    | some a =>
      have async : s.1.pacing = .async := ((accounted_some account).mp h).pacing
      exact absurd (async.symm.trans pacing) nofun

theorem Accounted.fail {s : Input × Audited E} (h : Accounted s) (f : Failure) :
    Accounted ((Act.fail f).run s) := by
  cases account : s.2.account with
  | none =>
    have unheard := (accounted_none account).mp h
    refine (accounted_none ?_).mpr (unheard.fail f)
    simp only [Act.run]
    split
    · simp [Audited.note, account]
    · exact account
  | some a =>
    have sound := (accounted_some account).mp h
    refine (accounted_some ?_).mpr (sound.fail f)
    simp only [Act.run]
    split
    · simp [Audited.note, account]
    · exact account

theorem Accounted.setListener {s : Input × Audited E} (h : Accounted s) (l : ListenerKey) :
    Accounted ((Act.setListener l).run s) := by
  simp only [Act.run]
  split
  next i set =>
    cases account : s.2.account with
    | none => exact Sound.opened ((accounted_none account).mp h) set
    | some a =>
      rw [setListener_of_async ((accounted_some account).mp h).pacing] at set
      cases set
  next => exact h

theorem Act.run_accounted (act : Act E) {s : Input × Audited E} (h : Accounted s) :
    Accounted (act.run s) := by
  cases act with
  | read n => exact h.read n
  | isReady => exact h.isReady
  | requestMore => exact h.request
  | watch => exact h.watch
  | fail f => exact h.fail f
  | setListener l => exact h.setListener l
  | feed id f => exact h.congr rfl (feed_course s.1 id f).1 (feed_course s.1 id f).2
  | addFeeder id => exact h.congr rfl (changeChannel_course s.1 id _).1 (changeChannel_course s.1 id _).2
  | dropFeeder id => exact h.congr rfl (changeChannel_course s.1 id _).1 (changeChannel_course s.1 id _).2
  | raiseFrom key => exact h.congr rfl ⟨⟨rfl,rfl,rfl,rfl⟩,rfl,rfl⟩ rfl
  | useEnvironment change => exact h.congr rfl (.refl s.1) rfl

end Acts

end HttpRequest.Body
