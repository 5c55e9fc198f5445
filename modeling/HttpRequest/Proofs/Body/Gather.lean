import HttpRequest.Proofs.Body.Operation
import HttpRequest.Proofs.Body.Supply
import HttpRequest.Proofs.Text.Decoding

/-! # Gathering bytes for a decoder

The three ways to read characters run one loop, which reads pieces into the decoder until it holds
enough, or the body ends, or a read fails. What a call does is what it gathers and then an answer.
-/
namespace HttpRequest.Body

open Input

section Reads
variable {E : Type} [ExternalSources E]

theorem source_of_unsettled (s : Input × E) (unsettled : ¬(requestMore s).1.settled = true) :
    (requestMore s).1.source ≠ none := by
  obtain ⟨i,e⟩ := s
  unfold requestMore at unsettled ⊢
  dsimp only at unsettled ⊢
  split at unsettled
  next settled => exact absurd settled unsettled
  next going =>
    rw [if_neg going]
    cases source : i.source with
    | none =>
      simp only [source] at unsettled
      exact absurd (by simp [settled, Buffer.finish]) unsettled
    | some source => exact Option.some_ne_none _

theorem settleWithin_settled (n : Nat) (s : Input × E) (ready : (settleWithin n s).1 = .ok ()) :
    (settleWithin n s).2.1.settled = true := by
  induction n generalizing s with
  | zero => cases ready
  | succ n ih =>
    have sourceless := source_of_unsettled s
    unfold settleWithin at ready ⊢
    generalize requestMore s = t at sourceless ready ⊢
    obtain ⟨i,e⟩ := t
    dsimp only at sourceless ready ⊢
    split
    next settled => exact settled
    next unsettled =>
      rw [if_neg unsettled] at ready
      split
      next missing => exact absurd missing (sourceless unsettled)
      next source here =>
        rw [here] at ready
        dsimp only at ready
        split at ready
        · cases ready
        next source e waited =>
          exact ih _ ready

theorem prepare_undisturbed (s : Input × E) : Undisturbed s.1 (prepare s).2.1 := by
  cases pacing : s.1.pacing with
  | async =>
    rcases prepare_of_async pacing with ⟨ready,-⟩ | ⟨refused,-⟩
    · rw [ready]
      exact requestMore_undisturbed s
    · rw [refused]
      exact requestMore_undisturbed s
  | blocking =>
    unfold prepare
    rw [pacing]
    exact settleWithin_undisturbed _ s

theorem prepare_ready (s : Input × E) (unfailed : s.1.failure = none) (ready : (prepare s).1 = .ok ())
    (empty : (prepare s).2.1.buffer.hasContent = false) : (prepare s).2.1.isFinished = true := by
  have ended : (prepare s).2.1.buffer.finished = true := by
    cases pacing : s.1.pacing with
    | async =>
      rcases prepare_of_async pacing with ⟨same,ends⟩ | ⟨refused,-⟩
      · rw [same] at empty ⊢
        exact ends ((Buffer.hasContent_eq_false_iff _).mp empty)
      · rw [refused] at ready
        cases ready
    | blocking =>
      have settles : prepare s = settle s := by
        unfold prepare
        rw [pacing]
      have course := (prepare_course s).failure
      rw [settles] at ready empty course ⊢
      have settled : (settle s).2.1.settled = true := settleWithin_settled _ s ready
      rw [unfailed] at course
      simpa [Input.settled, empty, course] using settled
  simp [isFinished, ended, empty]

structure Piece (s t : Input × E) (result : Except Failure Octets) : Prop where
  mode : t.1.mode = s.1.mode
  decoder : t.1.decoder = s.1.decoder
  consumed : t.1.consumed = s.1.consumed + (result.toOption.getD []).length
  ended : result = .ok [] → t.1.isFinished = true
  finished : s.1.isFinished = true → result.toOption.getD [] = [] ∧ t.1.isFinished = true

omit [ExternalSources E] in
theorem readBuffered_piece {n : Nat} (nonzero : n ≠ 0) (s : Input × E)
    (ready : s.1.buffer.hasContent = false → s.1.isFinished = true) :
    Piece s ((readBuffered n s.1).2,s.2) (readBuffered n s.1).1 := by
  have content (finished : s.1.isFinished = true) : s.1.buffer.hasContent = false := by
    simpa using (Bool.and_eq_true_iff.mp finished).2
  unfold readBuffered
  split
  next holds =>
    refine ⟨rfl,rfl,rfl,?_,fun finished => absurd (holds.symm.trans (content finished)) nofun⟩
    intro nothing
    have bytes := s.1.buffer.hasContent_iff.mp holds
    have taken : s.1.buffer.bytes.take n = [] := (s.1.buffer.take_bytes n).symm.trans (Except.ok.inj nothing)
    exact absurd (List.take_eq_nil_iff.mp taken) (by simp [nonzero, bytes])
  next empty =>
    have finished := ready (by simpa using empty)
    split
    · exact ⟨rfl,rfl,rfl,nofun,fun _ => ⟨rfl,finished⟩⟩
    · exact ⟨rfl,rfl,rfl,fun _ => finished,fun _ => ⟨rfl,finished⟩⟩

theorem read_piece {n : Nat} (nonzero : n ≠ 0) (s : Input × E) : Piece s (read n s).2 (read n s).1 := by
  unfold Input.read
  split
  · exact ⟨rfl,rfl,rfl,nofun,fun finished => ⟨rfl,finished⟩⟩
  next unfailed =>
    rw [if_neg nonzero]
    have same := prepare_undisturbed s
    have ready := prepare_ready s unfailed
    split
    next f t refused =>
      rw [refused] at same
      exact ⟨same.mode,same.decoder,same.consumed,nofun,fun finished => ⟨rfl,same.finished finished⟩⟩
    next i e prepared =>
      rw [prepared] at same ready
      have piece := readBuffered_piece nonzero (i,e) (ready rfl)
      exact ⟨piece.mode.trans same.mode,piece.decoder.trans same.decoder,
        piece.consumed.trans (congrArg (· + _) same.consumed),piece.ended,
        fun finished => piece.finished (same.finished finished)⟩

theorem readBuffered_stock {n : Nat} {s : Input × E} {bytes : Octets}
    (comes : (readBuffered n s.1).1 = .ok bytes) :
    stock ((readBuffered n s.1).2,s.2) + bytes.length ≤ stock s := by
  unfold readBuffered at comes ⊢
  split at comes
  next holds =>
    have taken := congrArg List.length (List.take_append_drop n s.1.buffer.bytes)
    rw [List.length_append] at taken
    obtain rfl : (s.1.buffer.take n).1 = bytes := Except.ok.inj comes
    simp only [holds, if_true, stock, Buffer.bytes_take, Buffer.take_bytes]
    omega
  next empty =>
    split at comes
    · cases comes
    next unfailed =>
      cases comes
      simp only [empty, Bool.false_eq_true, if_false]
      exact Nat.le_refl _

theorem read_stock [BoundedSources E] {n : Nat} {s : Input × E} {bytes : Octets}
    (comes : (read n s).1 = .ok bytes) : stock (read n s).2 + bytes.length ≤ stock s := by
  have prepared := prepare_stock s
  unfold Input.read at comes ⊢
  split at comes
  · cases comes
  next unfailed =>
    by_cases none : n = 0
    · rw [if_pos none] at comes ⊢
      cases comes
      exact Nat.le_refl _
    · rw [if_neg none] at comes ⊢
      generalize prepare s = ready at comes prepared ⊢
      obtain ⟨_ | _,i,e⟩ := ready
      · cases comes
      · exact Nat.le_trans (readBuffered_stock (s := (i,e)) comes) prepared

end Reads

inductive Stop where
  | enough
  | ended
  | refused (f : Failure)
  | exhausted
deriving DecidableEq

/-- The bytes that were read into the decoder, why it stopped, and the state then. -/
structure Gathered (E : Type) where
  bytes : Octets
  stop : Stop
  state : Input × E

section Gathering
variable {E : Type} [ExternalSources E]

/-- Reads pieces into the decoder until it holds enough, at most `n` of them. -/
def gather (enough : Decoder → Bool) : Nat → Input × E → Gathered E
  | 0, s => ⟨[], .exhausted, s⟩
  | n + 1, s =>
    if enough s.1.decoder then ⟨[], .enough, s⟩
    else
      match read pieceSize s with
      | (.error f, s) => ⟨[], .refused f, s⟩
      | (.ok [], i, e) => ⟨[], .ended, { i with decoder := i.decoder.finish }, e⟩
      | (.ok piece, i, e) =>
        let rest := gather enough n ({ i with decoder := i.decoder.feed piece }, e)
        { rest with bytes := piece ++ rest.bytes }

variable {sated : Decoder → Bool}

/-- What gathering leaves: the decoder was fed what was read, and was told of the end if that came. -/
structure Gathered.Sound (sated : Decoder → Bool) (s : Input × E) (g : Gathered E) : Prop where
  mode : g.state.1.mode = s.1.mode
  consumed : g.state.1.consumed = s.1.consumed + g.bytes.length
  decoder : g.state.1.decoder =
    if g.stop = .ended then (s.1.decoder.feed g.bytes).finish else s.1.decoder.feed g.bytes
  enough : g.stop = .enough → sated (s.1.decoder.feed g.bytes) = true
  short : g.stop = .ended → sated (s.1.decoder.feed g.bytes) = false
  ended : g.stop = .ended → g.state.1.isFinished = true
  finished : s.1.isFinished = true → g.bytes = [] ∧ g.state.1.isFinished = true

theorem gather_sound (n : Nat) (s : Input × E) : (gather sated n s).Sound sated s := by
  induction n generalizing s with
  | zero => exact ⟨rfl,rfl,by simp [gather],nofun,nofun,nofun,fun finished => ⟨rfl,finished⟩⟩
  | succ n ih =>
    unfold gather
    split
    next holds =>
      exact ⟨rfl,rfl,by simp,fun _ => by simpa using holds,nofun,nofun,fun finished => ⟨rfl,finished⟩⟩
    next short =>
      have short : sated s.1.decoder = false := by simpa using short
      have piece := read_piece (n := pieceSize) (by decide) s
      generalize read pieceSize s = r at piece
      obtain ⟨f | _ | ⟨b,bytes⟩,i,e⟩ := r
      · exact ⟨piece.mode,piece.consumed,by simpa using piece.decoder,nofun,nofun,nofun,
          fun finished => ⟨rfl,(piece.finished finished).2⟩⟩
      · exact ⟨piece.mode,piece.consumed,by simpa using congrArg Decoder.finish piece.decoder,nofun,
          fun _ => by simpa using short,fun _ => piece.ended rfl,
          fun finished => ⟨rfl,(piece.finished finished).2⟩⟩
      · have rest := ih ({ i with decoder := i.decoder.feed (b :: bytes) },e)
        have fed (more : Octets) : (i.decoder.feed (b :: bytes)).feed more =
            s.1.decoder.feed (b :: bytes ++ more) := by
          rw [Decoder.feed_append, ← piece.decoder]
        dsimp only
        generalize gather sated n ({ i with decoder := i.decoder.feed (b :: bytes) },e) = g at rest
        obtain ⟨mode,consumed,decoder,enough,short,ended,-⟩ := rest
        dsimp only at mode consumed decoder enough short ended
        rw [fed] at decoder enough short
        refine ⟨mode.trans piece.mode,?_,decoder,enough,short,ended,?_⟩
        · have before : i.consumed = s.1.consumed + (b :: bytes).length := piece.consumed
          rw [consumed, before, List.length_append, Nat.add_assoc]
        · exact fun finished => absurd (piece.finished finished).1 (List.cons_ne_nil b bytes)

theorem gather_unexhausted [BoundedSources E] {n : Nat} {s : Input × E} (room : stock s < n) :
    (gather sated n s).stop ≠ .exhausted := by
  induction n generalizing s with
  | zero => exact absurd room (Nat.not_lt_zero _)
  | succ n ih =>
    have leaves := fun (bytes : Octets) (comes : (read pieceSize s).1 = .ok bytes) => read_stock comes
    unfold gather
    split
    · nofun
    · generalize read pieceSize s = r at leaves
      obtain ⟨f | _ | ⟨b,bytes⟩,i,e⟩ := r
      · nofun
      · nofun
      · have less := leaves _ rfl
        have less : stock (i,e) + (bytes.length + 1) ≤ stock s := less
        refine ih ?_
        change stock (i,e) < n
        omega

def Gathered.conclude {α : Type} (g : Gathered E) (enough ended : Input × E → α × (Input × E)) :
    Except Failure α × (Input × E) :=
  match g.stop with
  | .enough => (.ok (enough g.state).1, (enough g.state).2)
  | .ended => (.ok (ended g.state).1, (ended g.state).2)
  | .refused f => (.error f, g.state)
  | .exhausted => (.error .timeout, g.state)

inductive Call where
  | chunk
  | line
  | rest
deriving DecidableEq, Repr

def Call.enough : Call → Decoder → Bool
  | chunk, d => !d.text.isEmpty
  | line, d => d.takeLine?.isSome
  | rest, _ => false

def takeFirstLine (s : Input × E) : Option String × (Input × E) :=
  match s.1.decoder.takeLine? with
  | some (line, decoder) => (some line, { s.1 with decoder }, s.2)
  | none => (none, s)

theorem readTextWithin_eq (n : Nat) (s : Input × E) :
    readTextWithin n s = (gather Call.chunk.enough n s).conclude
      (fun s => (some (takeText s).1, (takeText s).2))
      (fun s => if s.1.decoder.text.isEmpty then (none, s) else (some (takeText s).1, (takeText s).2)) := by
  induction n generalizing s with
  | zero => rfl
  | succ n ih =>
    unfold readTextWithin gather
    cases empty : s.1.decoder.text.isEmpty with
    | false => simp [Call.enough, empty, Gathered.conclude]
    | true =>
      simp only [Call.enough, empty, Bool.not_true, Bool.false_eq_true, if_false, if_true, fill]
      generalize read pieceSize s = piece
      obtain ⟨f | _ | ⟨b,bytes⟩,i,e⟩ := piece
      · rfl
      · simp only [Gathered.conclude]
        split <;> rfl
      · exact ih _

theorem readLineWithin_eq (n : Nat) (s : Input × E) :
    readLineWithin n s = (gather Call.line.enough n s).conclude takeFirstLine
      (fun s => (if (takeText s).1.isEmpty then none else some (takeText s).1, (takeText s).2)) := by
  induction n generalizing s with
  | zero => rfl
  | succ n ih =>
    unfold readLineWithin gather
    cases waits : s.1.decoder.takeLine? with
    | some cut => simp [Call.enough, waits, Gathered.conclude, takeFirstLine]
    | none =>
      simp only [Call.enough, waits, Option.isSome_none, Bool.false_eq_true, if_false, fill]
      generalize read pieceSize s = piece
      obtain ⟨f | _ | ⟨b,bytes⟩,i,e⟩ := piece
      · rfl
      · rfl
      · exact ih _

theorem readAllWithin_eq (n : Nat) (s : Input × E) :
    readAllWithin n s = (gather Call.rest.enough n s).conclude takeText takeText := by
  induction n generalizing s with
  | zero => rfl
  | succ n ih =>
    unfold readAllWithin gather
    simp only [Call.enough, Bool.false_eq_true, if_false, fill]
    generalize read pieceSize s = piece
    obtain ⟨f | _ | ⟨b,bytes⟩,i,e⟩ := piece
    · rfl
    · rfl
    · exact ih _

end Gathering

end HttpRequest.Body
