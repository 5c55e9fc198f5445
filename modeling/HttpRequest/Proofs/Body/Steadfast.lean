import HttpRequest.Proofs.Body.Usage
import HttpRequest.Report.Basic
import HttpRequest.Scripted.Collaborators

/-! # The failure of an input

Once an input has failed, whoever uses it sees one failure: by looking at it, by reading, by making it
fail again, and in the callback for failures. To state this over all uses, a log is kept of what the
users see, callbacks included. No operation takes a failure back or replaces it. A delivery does so in
one place: when the callback for the end of the body fails, its failure counts even if the input had
failed while the callback ran. Up to the first such moment the log is of one failure only.
-/
namespace HttpRequest

/-- Two failures of the same kind, status and text. -/
def Failure.Resembles (f g : Failure) : Prop :=
  f.kindName = g.kindName ∧ f.status = g.status ∧ f.message = g.message

theorem Failure.again_resembles (f : Failure) : f.again.Resembles f := by
  refine ⟨?_,f.status_again,f.message_again⟩
  cases f <;> rfl

namespace Body

open Input

inductive Remark where
  | failure (standing : Option Failure)
  | failed (first : Bool)
  | read (bytes : Octets)
  | readFailed (f : Failure)
  | told (f : Failure)
  /-- The callback for the end failed when the failure of the input was `standing`. -/
  | endFailed (f : Failure) (standing : Option Failure)
deriving DecidableEq

namespace Remark

def reveals? : Remark → Option Failure
  | failure standing => standing
  | told f => some f
  | _ => none

/-- What may be seen of an input that failed with `f`. -/
def Agrees (f : Failure) : Remark → Prop
  | failure standing => standing = some f
  | failed first => first = false
  | read _ => False
  | readFailed g => g.Resembles f
  | told g => g = f
  | endFailed _ _ => True

/-- A later remark is of the failure that an earlier one shows. -/
def Consistent (earlier later : Remark) : Prop :=
  ∀ f ∈ earlier.reveals?, later.Agrees f

/-- The callback for the end failed otherwise than the input had failed before. -/
def Overrules : Remark → Prop
  | endFailed f (some standing) => f ≠ standing
  | _ => False

end Remark

section Answers
variable {E : Type} [ExternalSources E]

/-- The answer to an operation, if it is about the failure or about bytes. -/
def Operation.answer? : Operation E → Input × E → Option Remark
  | fail f, (i, _) => some (.failed (i.fail f).1)
  | read n, s =>
    match (Input.read n s).1 with
    | .ok bytes => some (.read bytes)
    | .error f => some (.readFailed f)
  | _, _ => none

/-- Writes down what is seen. The failure of the input is looked at before and after each step. -/
def remarks : Observer E (List Remark) where
  act op s log :=
    log ++ [.failure s.1.failure] ++ (op.answer? s).toList ++ [.failure (op.apply s).1.failure]
  look i log := log ++ [.failure i.failure]
  endFailed f i log := log ++ [.endFailed f i.failure]
  told f log := log ++ [.told f]

def Usage.remarks (u : Usage E) (timeout : Nat) (e : E) : List Remark :=
  (u.run Body.remarks (Input.new timeout,⟨e,[]⟩)).2.2.log

end Answers

section Failed
variable {E : Type} [ExternalSources E] {s : Input × E} {f : Failure}

theorem read_of_failed (failed : s.1.failure = some f) (n : Nat) : read n s = (.error f.again,s) := by
  simp only [Input.read, failed]

theorem readPieces_of_failed (failed : s.1.failure = some f) (n : Nat) (pieces : List Octets) :
    (readPieces n pieces s).2 = s := by
  cases n with
  | zero => rfl
  | succ n => simp only [readPieces, read_of_failed failed]

theorem isReady_of_failed (failed : s.1.failure = some f) : isReady s = (true,s) := by
  have settled := settled_of_failure (Option.isSome_of_mem failed)
  unfold isReady
  split
  · rfl
  · simp only [requestMore_of_settled settled, settled, if_true]

theorem readReadyPieces_of_failed (failed : s.1.failure = some f) (size n : Nat) (pieces : List Octets) :
    (readReadyPieces size n pieces s).2 = s := by
  cases n with
  | zero => rfl
  | succ n => simp only [readReadyPieces, isReady_of_failed failed, read_of_failed failed]

theorem fill_of_failed (failed : s.1.failure = some f) : fill s = (.error f.again,s) := by
  simp only [fill, read_of_failed failed]

theorem readTextWithin_of_failed (failed : s.1.failure = some f) (n : Nat) :
    (readTextWithin n s).2.1.failure = some f := by
  cases n with
  | zero => exact failed
  | succ n =>
    simp only [readTextWithin, fill_of_failed failed]
    split
    · exact failed
    · exact failed

theorem readLineWithin_of_failed (failed : s.1.failure = some f) (n : Nat) :
    (readLineWithin n s).2.1.failure = some f := by
  cases n with
  | zero => exact failed
  | succ n =>
    simp only [readLineWithin, fill_of_failed failed]
    split
    · exact failed
    · exact failed

theorem readAllWithin_of_failed (failed : s.1.failure = some f) (n : Nat) : (readAllWithin n s).2 = s := by
  cases n with
  | zero => rfl
  | succ n => simp only [readAllWithin, fill_of_failed failed]

omit [ExternalSources E] in
theorem asReader_of_failed {α : Type} (failed : s.1.failure = some f)
    {g : Input × E → Except Failure α × (Input × E)} (kept : (g s).2.1.failure = some f) :
    (asReader g s).2.1.failure = some f := by
  unfold asReader
  split
  · exact failed
  · exact kept

theorem sendContinue_of_failed (failed : s.1.failure = some f) :
    (sendContinue s).2.1.failure = some f := by
  rw [sendContinue_eq]
  exact failed

theorem Operation.apply_of_failed (op : Operation E) (failed : s.1.failure = some f) :
    (op.apply s).1.failure = some f := by
  obtain ⟨i,e⟩ := s
  have settled := settled_of_failure (Option.isSome_of_mem failed)
  cases op with
  | attach source expectsContinue => exact failed
  | setTimeout milliseconds => exact failed
  | enterStream =>
    simp only [apply, Input.enterStream]
    split <;> exact failed
  | enterReader charset =>
    simp only [apply, Input.enterReader]
    split <;> exact failed
  | sendContinue => exact sendContinue_of_failed failed
  | requestMore => exact (requestMore_course (i,e)).failure.trans failed
  | settle => exact (settleWithin_course _ (i,e)).failure.trans failed
  | watch => exact (watch_course (i,e)).1.failure.trans failed
  | setListener l =>
    simp only [apply, Input.setListener]
    split
    · exact failed
    · split <;> exact failed
  | isReady => exact (isReady_course (i,e)).failure.trans failed
  | fail g =>
    have failed : i.failure = some f := failed
    simp only [apply, Input.fail, failed]
  | read n =>
    simp only [apply, read_of_failed failed]
    exact failed
  | readRest =>
    simp only [apply, Input.readRest, readPieces_of_failed failed]
    exact failed
  | readReady size =>
    simp only [apply, Input.readReady, readReadyPieces_of_failed failed]
    exact failed
  | skipRest =>
    have same := readPieces_of_failed failed (pieceBound (i,e)) []
    simp only [apply, Input.skipRest, Input.readRest]
    generalize readPieces (pieceBound (i,e)) [] (i,e) = rest at same
    obtain ⟨⟨bytes,_ | g⟩,t⟩ := rest
    · exact same ▸ failed
    · exact same ▸ failed
  | readText => exact asReader_of_failed failed (readTextWithin_of_failed failed _)
  | readLine => exact asReader_of_failed failed (readLineWithin_of_failed failed _)
  | readAll =>
    refine asReader_of_failed failed ?_
    simp only [Input.readAll, readAllWithin_of_failed failed]
    exact failed
  | feed id g => exact (feed_course i id g).1.failure.trans failed
  | addFeeder id => exact (changeChannel_course i id _).1.failure.trans failed
  | dropFeeder id => exact (changeChannel_course i id _).1.failure.trans failed
  | raiseFrom key => exact failed
  | useEnvironment change => exact failed

theorem Operation.answer_agrees (op : Operation E) (failed : s.1.failure = some f) :
    ∀ r ∈ op.answer? s, r.Agrees f := by
  obtain ⟨i,e⟩ := s
  cases op with
  | fail g =>
    have failed : i.failure = some f := failed
    simp [answer?, Input.fail, failed, Remark.Agrees]
  | read n => simp [answer?, read_of_failed failed, Remark.Agrees, f.again_resembles]
  | _ => simp [answer?]

theorem Operation.answer_reveals (op : Operation E) : ∀ r ∈ op.answer? s, r.reveals? = none := by
  cases op with
  | fail f => simp [answer?, Remark.reveals?]
  | read n =>
    simp only [answer?]
    split <;> simp [Remark.reveals?]
  | _ => simp [answer?]

end Failed

section Log

/-- As long as nothing was overruled, the log is of one failure, which is that of the input. -/
structure Steadfast (i : Input) (log : List Remark) : Prop where
  consistent : ∀ first, first <+: log → (∀ r ∈ first, ¬r.Overrules) → first.Pairwise Remark.Consistent
  revealed : (∀ r ∈ log, ¬r.Overrules) → ∀ r ∈ log, ∀ f ∈ r.reveals?, i.failure = some f

namespace Steadfast

variable {i j : Input} {log : List Remark}

theorem change (h : Steadfast i log) (kept : (∀ r ∈ log, ¬r.Overrules) →
    ∀ f, i.failure = some f → j.failure = some f) : Steadfast j log :=
  ⟨h.consistent,fun allowed r mem f shows => kept allowed f (h.revealed allowed r mem f shows)⟩

theorem note (h : Steadfast i log) {r : Remark} (agrees : ∀ f, i.failure = some f → r.Agrees f)
    (reveals : ∀ f ∈ r.reveals?, i.failure = some f) : Steadfast i (log ++ [r]) := by
  have before (allowed : ∀ q ∈ log ++ [r], ¬q.Overrules) : ∀ q ∈ log, ¬q.Overrules :=
    fun q mem => allowed q (List.mem_append_left _ mem)
  refine ⟨?_,?_⟩
  · intro first initial allowed
    rcases List.prefix_concat_iff.mp initial with rfl | initial
    · refine List.pairwise_append.mpr ⟨h.consistent _ (List.prefix_refl _) (before allowed),
        List.pairwise_singleton _ r,?_⟩
      intro q mem later here f shows
      rw [List.mem_singleton.mp here]
      exact agrees f (h.revealed (before allowed) q mem f shows)
    · exact h.consistent first initial allowed
  · intro allowed q mem f shows
    rcases List.mem_append.mp mem with mem | here
    · exact h.revealed (before allowed) q mem f shows
    · rw [List.mem_singleton.mp here] at shows
      exact reveals f shows

theorem look (h : Steadfast i log) : Steadfast i (log ++ [.failure i.failure]) :=
  h.note (fun _ failed => failed) fun _ shows => shows

end Steadfast

variable {E : Type} [ExternalSources E]

theorem Operation.act_steadfast (op : Operation E) (s : Input × E) {log : List Remark}
    (h : Steadfast s.1 log) : Steadfast (op.apply s).1 (remarks.act op s log) := by
  have kept : ∀ f, s.1.failure = some f → (op.apply s).1.failure = some f :=
    fun f failed => op.apply_of_failed failed
  have looked := h.look
  refine Steadfast.look ?_
  cases answer : op.answer? s with
  | none => exact List.append_nil _ ▸ looked.change fun _ => kept
  | some r =>
    have seen : Steadfast s.1 (log ++ [.failure s.1.failure] ++ [r]) := by
      refine looked.note (fun f failed => op.answer_agrees failed r answer) ?_
      rw [op.answer_reveals r answer]
      exact nofun
    exact seen.change fun _ => kept

/-- A failure of the callback for the end replaces one that came while it ran, and only that. -/
theorem endFailed_steadfast {i : Input} {log : List Remark} (h : Steadfast i log) (f : Failure) :
    Steadfast { i with failureTold := true, failure := some f }
      (log ++ [.endFailed f i.failure] ++ [.told f]) := by
  have noted : Steadfast i (log ++ [.endFailed f i.failure]) := h.note (fun _ _ => trivial) nofun
  have failing : Steadfast { i with failureTold := true, failure := some f }
      (log ++ [.endFailed f i.failure]) := by
    refine noted.change fun allowed g failed => ?_
    have same := allowed (.endFailed f i.failure) (by simp)
    simpa [failed, Remark.Overrules] using same
  exact failing.note (fun g same => Option.some.inj same) fun g shows => shows

theorem remarks_keeps : (remarks : Observer E (List Remark)).Keeps Steadfast where
  act op s _ h := op.act_steadfast s h
  look _ _ h := h.look
  told _ _ _ failed h :=
    h.note (fun _ same => Option.some.inj (failed.symm.trans same)) fun _ shows => failed.trans shows
  endFailed _ f _ h := endFailed_steadfast h f
  harmless _ harmless h := h.change fun _ => harmless.failure

/-- However an input is used, what is seen of its failure is of the first one, up to the moment when a
callback for the end fails otherwise than the input had failed while it ran. -/
theorem failure_steadfast (timeout : Nat) (e : E) (u : Usage E) {first : List Remark}
    (initial : first <+: u.remarks timeout e) (allowed : ∀ r ∈ first, ¬r.Overrules) :
    first.Pairwise Remark.Consistent := by
  have fresh : Steadfast (Input.new timeout) [] := by
    refine ⟨?_,fun _ => nofun⟩
    intro first initial _
    rw [List.prefix_nil.mp initial]
    exact .nil
  exact (remarks_keeps.usage u (s := (Input.new timeout,⟨e,[]⟩)) fresh).consistent first initial allowed

end Log

section Overruling

/-- A listener whose callback for the end makes the input time out, looks what a read says, and then
fails with `f`. -/
def closingUsage (f : Failure) : Usage (Scripted.Environment Unit) :=
  .use (.attach (.channel { id := ⟨0⟩, queue := [.finish] }) false) fun _ _ =>
    .use (.setListener ⟨0⟩) fun _ _ =>
      .poll (fun _ _ => .finish (.ok ()))
        (fun _ _ => .use (.fail .timeout) fun _ _ => .use (.read 1) fun _ _ => .finish (.error f))
        (fun _ _ e => e) fun _ _ =>
          .use (.read 1) fun _ _ => .finish (.ok ())

def closingLog (f : Failure) : List Remark :=
  (closingUsage f).remarks 30000 { kept := () }

def agreedLog : List Remark :=
  List.replicate 6 (.failure none) ++ [.failed true,.failure (some .timeout),
    .failure (some .timeout),.readFailed .timeout,.failure (some .timeout),
    .endFailed .timeout (some .timeout),.told .timeout,.failure (some .timeout),
    .failure (some .timeout),.readFailed .timeout,.failure (some .timeout)]

/-- The callback fails with the failure that the input has by then. -/
theorem agreedLog_consistent :
    agreedLog <+: closingLog .timeout ∧ (∀ r ∈ agreedLog, ¬r.Overrules) ∧
      agreedLog.Pairwise Remark.Consistent := by
  have initial : agreedLog <+: closingLog .timeout := by decide +kernel
  have allowed : ∀ r ∈ agreedLog, ¬r.Overrules := by simp [agreedLog, Remark.Overrules]
  exact ⟨initial,allowed,failure_steadfast (E := Scripted.Environment Unit) 30000 { kept := () }
    (closingUsage .timeout) initial allowed⟩

/-- The callback fails otherwise. The listener is told of that second failure, and from then on it is
the failure of the input. -/
theorem closingLog_late :
    List.Sublist [.failure (some .timeout),.told (.illegalState "late"),
      .failure (some (.illegalState "late"))] (closingLog (.illegalState "late")) ∧
    ¬(closingLog (.illegalState "late")).Pairwise Remark.Consistent := by
  have log : List.Sublist [.failure (some .timeout),.told (.illegalState "late"),
      .failure (some (.illegalState "late"))] (closingLog (.illegalState "late")) := by decide +kernel
  refine ⟨log,fun all => ?_⟩
  have told := (List.pairwise_cons.mp (all.sublist log)).1 (.told (.illegalState "late")) (.head _)
  exact absurd (told .timeout rfl) nofun

end Overruling

end Body

end HttpRequest
