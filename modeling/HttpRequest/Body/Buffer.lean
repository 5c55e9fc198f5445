import HttpRequest.Failure
import HttpRequest.Text.Utf8

/-! # Body buffers

A buffer queues the chunks of a body until they are read. It accepts bytes until the end or a failure
is announced, keeps the first failure, and hands out the queued bytes in order, whatever the sizes of
the chunks and of the reads.
-/
namespace HttpRequest.Body

inductive Delivery where
  | bytes (chunk : Octets)
  | finished
  | failed (f : Failure)
deriving DecidableEq, Repr

/-- The bytes in a list of deliveries up to the first one that ends the body. -/
def Delivery.bytesOf : List Delivery → Octets
  | .bytes chunk :: rest => chunk ++ bytesOf rest
  | _ => []

/-- Queued chunks, the number of queued bytes, and whether and how the body has ended. -/
structure Buffer where
  chunks : List Octets := []
  available : Nat := 0
  finished : Bool := false
  failure : Option Failure := none
  counted : available = chunks.flatten.length := by rfl
  /-- A failure ends the body. -/
  ended : failure.isSome → finished := by simp
deriving DecidableEq, Repr

namespace Buffer

def empty : Buffer := {}

instance : Inhabited Buffer := ⟨empty⟩

def bytes (b : Buffer) : Octets :=
  b.chunks.flatten

def push (b : Buffer) (chunk : Octets) : Buffer :=
  if chunk.isEmpty || b.finished then b
  else
    { b with
      chunks := b.chunks ++ [chunk]
      available := b.available + chunk.length
      counted := by simp [b.counted] }

def finish (b : Buffer) : Buffer :=
  { b with finished := true, ended := fun _ => rfl }

/-- Ends the body with a failure; only the first one is kept. -/
def fail (b : Buffer) (f : Failure) : Buffer :=
  { b with failure := b.failure.or (some f), finished := true, ended := fun _ => rfl }

def receive (b : Buffer) : Delivery → Buffer
  | .bytes chunk => b.push chunk
  | .finished => b.finish
  | .failed f => b.fail f

def takeFrom : Nat → List Octets → Octets × List Octets
  | 0, chunks => ([], chunks)
  | _ + 1, [] => ([], [])
  | n + 1, chunk :: rest =>
    if chunk.length ≤ n + 1 then
      let (taken, left) := takeFrom (n + 1 - chunk.length) rest
      (chunk ++ taken, left)
    else (chunk.take (n + 1), chunk.drop (n + 1) :: rest)

/-- The sizes of the chunks do not show in what is taken. -/
theorem takeFrom_eq (n : Nat) (chunks : List Octets) :
    (takeFrom n chunks).1 = chunks.flatten.take n ∧
      (takeFrom n chunks).2.flatten = chunks.flatten.drop n := by
  induction chunks generalizing n with
  | nil => cases n <;> simp [takeFrom]
  | cons chunk rest ih =>
    cases n with
    | zero => simp [takeFrom]
    | succ n =>
      unfold takeFrom
      split
      next whole =>
        obtain ⟨taken,left⟩ := ih (n + 1 - chunk.length)
        simp [taken, left, List.take_append, List.drop_append, List.take_of_length_le whole,
          List.drop_of_length_le whole]
      next part =>
        have fits : n + 1 - chunk.length = 0 := by omega
        simp [List.take_append, List.drop_append, fits]

def take (b : Buffer) (n : Nat) : Octets × Buffer :=
  let taken := takeFrom n b.chunks
  (taken.1,
    { b with
      chunks := taken.2
      available := b.available - taken.1.length
      counted := by rw [(takeFrom_eq n b.chunks).1, (takeFrom_eq n b.chunks).2, b.counted]; simp; omega })

def clear (b : Buffer) : Buffer :=
  { b with chunks := [], available := 0, counted := rfl }

def takeFailure (b : Buffer) : Option Failure × Buffer :=
  (b.failure, { b with failure := none, ended := nofun })

def hasContent (b : Buffer) : Bool :=
  0 < b.available

theorem hasContent_iff (b : Buffer) : b.hasContent = true ↔ b.bytes ≠ [] := by
  rw [hasContent, decide_eq_true_iff, b.counted, List.length_pos_iff, bytes]

theorem hasContent_eq_false_iff (b : Buffer) : b.hasContent = false ↔ b.bytes = [] := by
  rw [← Bool.not_eq_true, hasContent_iff, Decidable.not_not]

theorem failure_eq_none {b : Buffer} (goesOn : b.finished = false) : b.failure = none := by
  cases failure : b.failure with
  | none => rfl
  | some f => simpa [goesOn] using b.ended (by simp [failure])

@[simp] theorem bytes_push (b : Buffer) (chunk : Octets) :
    (b.push chunk).bytes = b.bytes ++ if b.finished then [] else chunk := by
  unfold push
  by_cases finished : b.finished = true
  · simp [finished]
  · cases chunk <;> simp [finished, bytes]

@[simp] theorem finished_push (b : Buffer) (chunk : Octets) :
    (b.push chunk).finished = b.finished := by
  unfold push
  split <;> rfl

@[simp] theorem bytes_take (b : Buffer) (n : Nat) : (b.take n).2.bytes = b.bytes.drop n :=
  (takeFrom_eq n b.chunks).2

@[simp] theorem take_bytes (b : Buffer) (n : Nat) : (b.take n).1 = b.bytes.take n :=
  (takeFrom_eq n b.chunks).1

/-- A buffer accepts what is delivered up to the first end, and once ended nothing more. -/
theorem bytes_receive (b : Buffer) (deliveries : List Delivery) :
    (deliveries.foldl receive b).bytes =
      b.bytes ++ if b.finished then [] else Delivery.bytesOf deliveries := by
  induction deliveries generalizing b with
  | nil => simp [Delivery.bytesOf]
  | cons d rest ih =>
    rw [List.foldl_cons, ih]
    cases d with
    | bytes chunk => cases finished : b.finished <;> simp [receive, finished, Delivery.bytesOf]
    | finished => simp [receive, finish, Delivery.bytesOf]; rfl
    | failed f => simp [receive, fail, Delivery.bytesOf]; rfl

end Buffer

end HttpRequest.Body
