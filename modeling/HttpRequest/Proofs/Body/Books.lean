import HttpRequest.Body.Buffer
import Mathlib.Algebra.GroupWithZero.Nat

/-! # The books of a body buffer

A buffer counts its bytes apart from the chunks that hold them. It queues no empty chunk, so the count tells
whether a chunk is queued at all. A copy out of the queue goes chunk by chunk: each round uses up a chunk or
the room, so the copy stops, and what it copied is covered by the count. Over any steps the bytes that left the
queue and those that are left in it are the bytes that entered it, in order, and behind the end of the body
none enters.
-/
namespace HttpRequest.Body

namespace Buffer
variable {chunk : Octets} {room : Nat}

theorem takeFrom_whole (whole : chunk.length ≤ room + 1) (rest : List Octets) :
    takeFrom (room + 1) (chunk :: rest) =
      (chunk ++ (takeFrom (room + 1 - chunk.length) rest).1,(takeFrom (room + 1 - chunk.length) rest).2) := by
  simp only [takeFrom, if_pos whole]

theorem takeFrom_part (part : room + 1 < chunk.length) (rest : List Octets) :
    takeFrom (room + 1) (chunk :: rest) = (chunk.take (room + 1),chunk.drop (room + 1) :: rest) := by
  simp only [takeFrom, if_neg (Nat.not_le_of_lt part)]

end Buffer

/-- A copy under way: the bytes copied, the room for more, and the chunks that are left. -/
structure Copy where
  copied : Octets
  room : Nat
  chunks : List Octets

namespace Copy

/-- One round copies the first chunk, or as much of it as there is room for. -/
def round? : Copy → Option Copy
  | ⟨_,0,_⟩ => none
  | ⟨_,_ + 1,[]⟩ => none
  | ⟨copied,room + 1,chunk :: rest⟩ =>
    let n := min chunk.length (room + 1)
    some ⟨copied ++ chunk.take n,room + 1 - n,if n = chunk.length then rest else chunk.drop n :: rest⟩

/-- The first copy stops after that many rounds, and is then the second. -/
inductive Stops : Copy → Nat → Copy → Prop
  | stop {c : Copy} (done : c.round? = none) : Stops c 0 c
  | round {c d e : Copy} {rounds : Nat} (next : c.round? = some d) (later : Stops d rounds e) : Stops c (rounds + 1) e

theorem stops_of_full (copied : Octets) (chunks : List Octets) : Stops ⟨copied,0,chunks⟩ 0 ⟨copied,0,chunks⟩ :=
  .stop rfl

section Rounds
variable {copied chunk : Octets} {room : Nat} {rest : List Octets}

theorem round?_whole (whole : chunk.length ≤ room + 1) :
    round? ⟨copied,room + 1,chunk :: rest⟩ = some ⟨copied ++ chunk,room + 1 - chunk.length,rest⟩ := by
  simp only [round?, Nat.min_eq_left whole, List.take_length, if_true]

theorem round?_part (part : room + 1 < chunk.length) :
    round? ⟨copied,room + 1,chunk :: rest⟩ =
      some ⟨copied ++ chunk.take (room + 1),0,chunk.drop (room + 1) :: rest⟩ := by
  simp only [round?, Nat.min_eq_right (Nat.le_of_lt part), Nat.sub_self, if_neg (Nat.ne_of_lt part)]

end Rounds

theorem stops_takeFrom (copied : Octets) (room : Nat) (chunks : List Octets) :
    ∃ rounds ≤ chunks.length, Stops ⟨copied,room,chunks⟩ rounds
      ⟨copied ++ (Buffer.takeFrom room chunks).1,room - (Buffer.takeFrom room chunks).1.length,
        (Buffer.takeFrom room chunks).2⟩ := by
  -- By induction on the chunks: a round that takes a whole chunk leaves one chunk less, and a
  -- round that takes a part of one is the last, as there is no room left.
  induction chunks generalizing copied room with
  | nil =>
    cases room with
    | zero => exact ⟨0,Nat.le_refl 0,by simpa [Buffer.takeFrom] using stops_of_full copied []⟩
    | succ room => exact ⟨0,Nat.le_refl 0,by simpa [Buffer.takeFrom] using Stops.stop rfl⟩
  | cons chunk rest ih =>
    cases room with
    | zero => exact ⟨0,Nat.zero_le _,by simpa [Buffer.takeFrom] using stops_of_full copied (chunk :: rest)⟩
    | succ room =>
      rcases Nat.lt_or_ge (room + 1) chunk.length with part | whole
      · -- the chunk is cut at the last byte there is room for, so no round follows
        have full : room + 1 - (chunk.take (room + 1)).length = 0 := by
          rw [List.length_take, Nat.min_eq_left (Nat.le_of_lt part), Nat.sub_self]
        rw [Buffer.takeFrom_part part, full]
        exact ⟨1,Nat.le_add_left 1 _,.round (round?_part part) (stops_of_full _ _)⟩
      · obtain ⟨rounds,few,later⟩ := ih (copied ++ chunk) (room + 1 - chunk.length)
        rw [List.append_assoc, Nat.sub_sub, ← List.length_append] at later
        rw [Buffer.takeFrom_whole whole]
        exact ⟨rounds + 1,Nat.succ_le_succ few,.round (round?_whole whole) later⟩

end Copy

namespace Buffer

inductive Step where
  | push (chunk : Octets)
  | take (n : Nat)
  | clear
  | finish
  | fail (f : Failure)
  | takeFailure
deriving DecidableEq, Repr

namespace Step

def apply (b : Buffer) : Step → Buffer
  | push chunk => b.push chunk
  | take n => (b.take n).2
  | clear => b.clear
  | finish => b.finish
  | fail f => b.fail f
  | takeFailure => b.takeFailure.2

def removed (b : Buffer) : Step → Octets
  | take n => (b.take n).1
  | clear => b.bytes
  | _ => []

def brought : Step → Octets
  | push chunk => chunk
  | _ => []

def ends : Step → Bool
  | finish => true
  | fail _ => true
  | _ => false

theorem finished_apply (b : Buffer) (step : Step) : (step.apply b).finished = (b.finished || step.ends) := by
  cases step with
  | push chunk => simp [apply, ends]
  | take n => exact (Bool.or_false _).symm
  | clear => exact (Bool.or_false _).symm
  | finish => exact (Bool.or_true _).symm
  | fail f => exact (Bool.or_true _).symm
  | takeFailure => exact (Bool.or_false _).symm

theorem removed_append_bytes (b : Buffer) (step : Step) :
    step.removed b ++ (step.apply b).bytes = b.bytes ++ if b.finished then [] else step.brought := by
  cases step with
  | push chunk => exact bytes_push b chunk
  | take n => simp [removed, apply, brought]
  | clear => simp [removed, apply, brought, Buffer.clear, bytes]
  | finish => simp [removed, apply, brought, Buffer.finish, bytes]
  | fail f => simp [removed, apply, brought, Buffer.fail, bytes]
  | takeFailure => simp [removed, apply, brought, Buffer.takeFailure, bytes]

end Step

theorem nil_notMem_takeFrom {chunks : List Octets} (filled : [] ∉ chunks) (n : Nat) :
    [] ∉ (takeFrom n chunks).2 := by
  induction chunks generalizing n with
  | nil => cases n <;> exact filled
  | cons chunk rest ih =>
    cases n with
    | zero => exact filled
    | succ n =>
      rw [List.mem_cons, not_or] at filled
      rcases Nat.lt_or_ge (n + 1) chunk.length with part | whole
      · rw [takeFrom_part part, List.mem_cons, not_or]
        refine ⟨fun used => ?_,filled.2⟩
        exact Nat.not_le_of_lt part (List.drop_eq_nil_iff.mp used.symm)
      · rw [takeFrom_whole whole]
        exact ih filled.2 _

theorem nil_notMem_apply {b : Buffer} (filled : [] ∉ b.chunks) (step : Step) : [] ∉ (step.apply b).chunks := by
  cases step with
  | push chunk =>
    change [] ∉ (b.push chunk).chunks
    unfold push
    split
    next => exact filled
    next accepted =>
      have nonempty : chunk ≠ [] := by
        rintro rfl
        exact accepted rfl
      rw [List.mem_append, List.mem_singleton, not_or]
      exact ⟨filled,nonempty.symm⟩
  | take n => exact nil_notMem_takeFrom filled n
  | clear => exact List.not_mem_nil
  | finish => exact filled
  | fail f => exact filled
  | takeFailure => exact filled

def after (b : Buffer) (steps : List Step) : Buffer :=
  steps.foldl Step.apply b

/-- The bytes that the steps take out of the queue, one step behind the other. -/
def removed (b : Buffer) : List Step → Octets
  | [] => []
  | step :: rest => step.removed b ++ removed (step.apply b) rest

/-- The bytes that the steps bring before the end of the body. -/
def brought : List Step → Octets
  | [] => []
  | step :: rest => step.brought ++ if step.ends then [] else brought rest

theorem nil_notMem_after {b : Buffer} (filled : [] ∉ b.chunks) (steps : List Step) :
    [] ∉ (b.after steps).chunks := by
  induction steps generalizing b with
  | nil => exact filled
  | cons step rest ih => exact ih (nil_notMem_apply filled step)

theorem removed_append_bytes (b : Buffer) (steps : List Step) :
    b.removed steps ++ (b.after steps).bytes = b.bytes ++ if b.finished then [] else brought steps := by
  -- By induction on the steps: nothing is lost, doubled or moved, and nothing enters behind the
  -- end.
  induction steps generalizing b with
  | nil => simp [removed, after, brought]
  | cons step rest ih =>
    have later := ih (step.apply b)
    rw [Step.finished_apply] at later
    calc
      b.removed (step :: rest) ++ (b.after (step :: rest)).bytes
      _ = step.removed b ++ ((step.apply b).removed rest ++ ((step.apply b).after rest).bytes) :=
        List.append_assoc ..
      _ = (step.removed b ++ (step.apply b).bytes) ++ if b.finished || step.ends then [] else brought rest := by
        rw [later, List.append_assoc]
      _ = b.bytes ++ if b.finished then [] else brought (step :: rest) := by
        rw [Step.removed_append_bytes]
        cases b.finished <;> simp [brought]

theorem hasContent_iff_of_filled {b : Buffer} (filled : [] ∉ b.chunks) : b.hasContent = true ↔ b.chunks ≠ [] := by
  rw [hasContent_iff, bytes, ne_eq, List.flatten_eq_nil_iff]
  refine not_congr ⟨fun empty => ?_,fun none chunk mem => ?_⟩
  · refine List.eq_nil_iff_forall_not_mem.mpr fun chunk mem => filled ?_
    exact empty chunk mem ▸ mem
  · simp [none] at mem

/-- What taking up to `n` bytes from a buffer does: the copy stops, it brings the front of the queue, and the
count covers it. -/
structure Taken (b : Buffer) (n : Nat) (taken : Octets) (left : Buffer) : Prop where
  stops : ∃ rounds ≤ b.chunks.length, Copy.Stops ⟨[],n,b.chunks⟩ rounds ⟨taken,n - taken.length,left.chunks⟩
  front : taken = b.bytes.take n
  rest : left.bytes = b.bytes.drop n
  length : taken.length = min n b.available
  covered : taken.length + left.available = b.available

theorem taken_take (b : Buffer) (n : Nat) : b.Taken n (b.take n).1 (b.take n).2 where
  stops := Copy.stops_takeFrom [] n b.chunks
  front := b.take_bytes n
  rest := b.bytes_take n
  length := by rw [take_bytes, List.length_take, b.counted, bytes]
  covered := by
    rw [take_bytes, (b.take n).2.counted, b.counted]
    change (b.bytes.take n).length + (b.take n).2.bytes.length = b.bytes.length
    rw [bytes_take, ← List.length_append, List.take_append_drop]

/-- After any steps the count is that of the queued bytes, no chunk is empty, and what is taken next is the
front of the queue. What left the queue and what is in it was brought before the end, and after an end
nothing enters. -/
theorem steps_booked (steps : List Step) :
    let b := empty.after steps
    (b.available = (b.chunks.map List.length).sum ∧ [] ∉ b.chunks ∧ (b.hasContent = true ↔ b.chunks ≠ [])) ∧
      (∀ n, b.Taken n (b.take n).1 (b.take n).2) ∧
      empty.removed steps ++ b.bytes = brought steps ∧
      (∀ later, b.finish.removed later ++ (b.finish.after later).bytes = b.bytes) ∧
      ∀ f later, (b.fail f).removed later ++ ((b.fail f).after later).bytes = b.bytes := by
  intro b
  have filled : [] ∉ b.chunks := nil_notMem_after List.not_mem_nil steps
  refine ⟨⟨?_,filled,hasContent_iff_of_filled filled⟩,b.taken_take,?_,fun later => ?_,fun f later => ?_⟩
  · rw [b.counted, List.length_flatten]
  · exact removed_append_bytes empty steps
  · exact (removed_append_bytes b.finish later).trans (List.append_nil _)
  · exact (removed_append_bytes (b.fail f) later).trans (List.append_nil _)

example : (empty.after [.push [1,2,3], .push [], .push [4,5], .take 4, .finish, .push [6]]).chunks = [[5]] := by
  decide

end Buffer

end HttpRequest.Body
