import HttpRequest.Proofs.Body.Conveyance
import HttpRequest.Scripted.Collaborators
import Mathlib.Algebra.GroupWithZero.Nat

/-! # The supply of a source

Loops that read to the end of a body run as often as its source may still give something. A source that
keeps to its supply does not let them run out of rounds: what it delivers leaves its supply, so that
with every byte that is read there is less to come.
-/
namespace HttpRequest.Body

open Input

/-- Sources outside that deliver no more than they announce. -/
class BoundedSources (E : Type) [ExternalSources E] : Prop where
  produce (key : SourceKey) (e : E) :
    (Delivery.bytesOf (ExternalSources.produce key e).1).length +
      ExternalSources.supply key (ExternalSources.produce key e).2 ≤ ExternalSources.supply key e
  wait (key : SourceKey) (milliseconds : Nat) (e : E) :
    ExternalSources.supply key (ExternalSources.wait key milliseconds e).2 ≤ ExternalSources.supply key e

section Sizes

theorem foldl_add {α : Type} {add : Nat → α → Nat} {size : α → Nat} (adds : ∀ n a, add n a = n + size a)
    (as : List α) (n : Nat) : as.foldl add n = n + (as.map size).sum := by
  induction as generalizing n with
  | nil => rfl
  | cons a rest ih => rw [List.foldl_cons, ih, adds, List.map_cons, List.sum_cons, Nat.add_assoc]

def Delivery.size : Delivery → Nat
  | .bytes chunk => chunk.length
  | _ => 0

theorem Delivery.bytesOf_length (deliveries : List Delivery) :
    (bytesOf deliveries).length ≤ (deliveries.map size).sum := by
  induction deliveries with
  | nil => exact Nat.le_refl _
  | cons d rest ih =>
    cases d with
    | bytes chunk =>
      rw [bytesOf, List.length_append, List.map_cons, List.sum_cons]
      exact Nat.add_le_add_left ih _
    | finished => exact Nat.zero_le _
    | failed f => exact Nat.zero_le _

namespace Channel

theorem size_eq (c : Channel) : c.size = (c.waiting.map (·.delivery.size)).sum :=
  (foldl_add (fun _ f => by cases f <;> rfl) c.waiting 0).trans (Nat.zero_add _)

theorem produce_size (c : Channel) (b : Buffer) :
    (Delivery.bytesOf c.deliveries).length + (c.produce b).1.size ≤ c.size := by
  have given (feeds : List Feed) (tail : List Delivery) (nothing : (tail.map Delivery.size).sum = 0) :
      (Delivery.bytesOf (feeds.map Feed.delivery ++ tail)).length ≤ (feeds.map (·.delivery.size)).sum := by
    have bound := Delivery.bytesOf_length (feeds.map Feed.delivery ++ tail)
    rwa [List.map_append, List.sum_append, nothing, List.map_map] at bound
  rw [size_eq, size_eq]
  cases closed : c.closed with
  | true =>
    have given := given c.pending.toList [] rfl
    rw [List.append_nil] at given
    unfold produce flushPending
    cases pending : c.pending <;> simp_all [deliveries, waiting]
  | false =>
    have parted := congrArg (fun feeds => (feeds.map (·.delivery.size)).sum)
      (through_append_drain c.waiting b)
    have given := given (through c.waiting)
      (if c.waiting.any Feed.closes || c.feeders ≠ 0 then [] else [.failed .earlyEof])
      (by split <;> rfl)
    simp only [List.map_append, List.sum_append] at parted
    simp only [deliveries, closed, Bool.false_eq_true, if_false, produce_of_open closed]
    generalize (if c.waiting.any Feed.closes || c.feeders ≠ 0 then []
      else [Delivery.failed .earlyEof]) = tail at given ⊢
    generalize drain c.waiting b = drained at parted
    obtain ⟨_ | _,queue,left⟩ := drained
    · rw [← parted]
      dsimp only
      split <;> exact Nat.add_le_add given (Nat.zero_le _)
    · have same : ({ c with pending := none, queue, closed := true } : Channel).waiting = queue := rfl
      rw [same, ← parted]
      exact Nat.add_le_add_right given _

end Channel

end Sizes

section Stock
variable {E : Type} [ExternalSources E]

/-- How many bytes can still come out of an input, those in the buffer included. -/
def stock (s : Input × E) : Nat :=
  s.1.buffer.bytes.length + s.1.source.elim 0 (·.supply s.2)

theorem pieceBound_eq (s : Input × E) : pieceBound s = stock s + 2 := by
  rw [pieceBound, stock, s.1.buffer.counted, Buffer.bytes]

variable [BoundedSources E]

theorem Source.produce_supply (source : Source) (b : Buffer) (e : E) :
    (Delivery.bytesOf (source.deliveries e)).length +
      (source.produce b e).1.supply (source.produce b e).2.2 ≤ source.supply e := by
  cases source with
  | memory content => simp [deliveries, produce, supply, Delivery.bytesOf]
  | channel c => exact c.produce_size b
  | external key => exact BoundedSources.produce key e

theorem Source.wait_supply (source : Source) (milliseconds : Nat) (e : E) :
    (source.wait milliseconds e).2.1.supply (source.wait milliseconds e).2.2 ≤ source.supply e := by
  cases source with
  | memory content => exact Nat.le_refl _
  | channel c =>
    have same : c.pull.2.size = c.size := by rw [Channel.size_eq, Channel.size_eq, Channel.waiting_pull]
    simp only [wait]
    split
    next d pulled =>
      rw [pulled] at same
      exact Nat.le_of_eq same
    next d pulled =>
      rw [pulled] at same
      exact Nat.le_of_eq same
  | external key => exact BoundedSources.wait key milliseconds e

theorem requestMore_stock (s : Input × E) : stock (requestMore s) ≤ stock s := by
  by_cases settled : s.1.settled = true
  · exact Nat.le_of_eq (congrArg stock (requestMore_of_settled settled))
  · have bytes := requestMore_bytes s
    obtain ⟨i,e⟩ := s
    unfold stock
    rw [bytes]
    cases source : i.source with
    | none => simp [requestMore, incoming, settled, source, Delivery.bytesOf]
    | some reads =>
      have supply := reads.produce_supply i.buffer e
      simp only [requestMore, incoming, settled, source, Bool.false_eq_true, if_false, List.length_append,
        Option.elim_some]
      generalize reads.produce i.buffer e = made at supply
      obtain ⟨after,buffer,env⟩ := made
      exact Nat.add_assoc _ _ _ ▸ Nat.add_le_add_left supply _

theorem settleWithin_stock (n : Nat) (s : Input × E) : stock (settleWithin n s).2 ≤ stock s := by
  induction n generalizing s with
  | zero => exact Nat.le_refl _
  | succ n ih =>
    have asked := requestMore_stock s
    unfold settleWithin
    generalize requestMore s = t at asked
    obtain ⟨i,e⟩ := t
    dsimp only
    split
    · exact asked
    · split
      · exact asked
      next source here =>
        have waited := source.wait_supply i.timeout e
        have less : stock ({ i with source := some (source.wait i.timeout e).2.1 },
            (source.wait i.timeout e).2.2) ≤ stock (i,e) := by
          simp only [stock, here, Option.elim_some]
          omega
        split
        next source e ended =>
          rw [ended] at less
          exact Nat.le_trans less asked
        next source e ended =>
          rw [ended] at less
          exact Nat.le_trans (ih _) (Nat.le_trans less asked)

theorem prepare_stock (s : Input × E) : stock (prepare s).2 ≤ stock s := by
  cases pacing : s.1.pacing with
  | async =>
    rcases prepare_of_async pacing with ⟨ready,-⟩ | ⟨refused,-⟩
    · rw [ready]
      exact requestMore_stock s
    · rw [refused]
      exact requestMore_stock s
  | blocking =>
    unfold prepare
    rw [pacing]
    exact settleWithin_stock _ s

end Stock

section Scripts
variable {κ : Type}

theorem deliveredSize_eq (deliveries : List Delivery) :
    Scripted.Environment.deliveredSize deliveries = (deliveries.map Delivery.size).sum :=
  (foldl_add (fun _ d => by cases d <;> rfl) deliveries 0).trans (Nat.zero_add _)

theorem script_modify {e f : Scripted.Environment κ} {key : SourceKey}
    (change : Scripted.Script → Scripted.Script)
    (modified : f.scripts = e.scripts.modify key.number change) (empty : (change default).steps = []) :
    (f.script key).steps = (change (e.script key)).steps := by
  simp only [Scripted.Environment.script, modified, Array.getElem?_modify, if_true]
  cases e.scripts[key.number]? with
  | none => exact empty.symm
  | some script => rfl

instance : BoundedSources (Scripted.Environment κ) where
  produce key e := by
    have left : ((ExternalSources.produce key e).2.script key).steps = (e.script key).steps.tail :=
      script_modify (fun s => { s with steps := s.steps.tail }) rfl rfl
    have delivered : (ExternalSources.produce key e).1 = (e.script key).steps.headD [] := rfl
    rw [delivered]
    simp only [ExternalSources.supply, left, deliveredSize_eq]
    cases (e.script key).steps with
    | nil => exact Nat.le_refl _
    | cons next rest =>
      rw [List.headD_cons, List.tail_cons, List.flatten_cons, List.map_append, List.sum_append]
      exact Nat.add_le_add_right (Delivery.bytesOf_length next) _
  wait key milliseconds e := by
    have kept : ((ExternalSources.wait key milliseconds e).2.script key).steps = (e.script key).steps := by
      simp only [ExternalSources.wait]
      split
      next arrival rest waits => exact script_modify (fun s => { s with waits := rest }) rfl rfl
      · rfl
    simp only [ExternalSources.supply, kept]
    exact Nat.le_refl _

end Scripts

end HttpRequest.Body
