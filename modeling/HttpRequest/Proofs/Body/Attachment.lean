import HttpRequest.Proofs.Body.Conveyance
import HttpRequest.Proofs.Body.Listener
import HttpRequest.Proofs.Body.Moves

/-! # Attachment to a channel

An input reads one channel, and neither its own operations nor those of the feeders put another in its
place. So what holds of the channel of an input can be followed through a whole run.
-/
namespace HttpRequest.Body

def Source.channelId? : Source → Option ChannelId
  | .channel c => some c.id
  | _ => none

namespace Input

def channelId? (i : Input) : Option ChannelId :=
  i.source.bind Source.channelId?

theorem channelId?_eq_some_iff {i : Input} {id : ChannelId} :
    i.channelId? = some id ↔ ∃ c, i.source = some (.channel c) ∧ c.id = id := by
  constructor
  · intro same
    obtain ⟨source,reads,same⟩ := Option.bind_eq_some_iff.mp same
    cases source with
    | channel c => exact ⟨c,reads,Option.some.inj same⟩
    | memory content => cases same
    | external key => cases same
  · rintro ⟨c,reads,rfl⟩
    simp [channelId?, reads, Source.channelId?]

theorem channelId?_eq_handle? (i : Input) :
    i.channelId? = i.handle?.bind fun h => match h with
      | .channel id => some id
      | .external _ => none := by
  unfold channelId? handle?
  cases i.source with
  | none => rfl
  | some source => cases source <;> rfl

theorem SameWire.channelId? {i j : Input} (same : SameWire i j) : j.channelId? = i.channelId? := by
  rw [channelId?_eq_handle?, channelId?_eq_handle?, same.handle]

section Sources
variable {E : Type} [ExternalSources E]

theorem requestMore_channelId? (s : Input × E) : (requestMore s).1.channelId? = s.1.channelId? :=
  (moves_wire.requestMore s).channelId?

theorem watch_channelId? (s : Input × E) : (watch s).1.channelId? = s.1.channelId? :=
  (moves_wire.watch s).channelId?

end Sources

end Input

open Input

section Acts
variable {E : Type} [ExternalSources E]

theorem Act.run_wire (act : Act E) (s : Input × Audited E) : SameWire s.1 (act.run s).1 := by
  cases act with
  | read n =>
    have same : (if n = 0 then s else acceptIncoming s).1 = s.1 := by split <;> rfl
    have kept := moves_wire.read n (if n = 0 then s else acceptIncoming s)
    rw [same] at kept
    exact kept
  | isReady => exact moves_wire.isReady (acceptIncoming s)
  | requestMore => exact moves_wire.requestMore (acceptIncoming s)
  | watch => exact moves_wire.watch s
  | fail f => exact (fail_quiet s.1 f).wire
  | setListener l =>
    simp only [Act.run]
    split
    next i set => exact (setListener_quiet set).wire
    · exact .refl s.1
  | feed id f => exact (feed_quiet s.1 id f).wire
  | addFeeder id => exact (addFeeder_quiet s.1 id).wire
  | dropFeeder id => exact (dropFeeder_quiet s.1 id).wire
  | raiseFrom key => exact .of_same rfl rfl
  | useEnvironment change => exact .refl s.1

theorem Act.run_channelId? (act : Act E) (s : Input × Audited E) :
    (act.run s).1.channelId? = s.1.channelId? :=
  (act.run_wire s).channelId?

theorem Conduct.run_channelId? (c : Conduct E) {s : Input × Audited E} (d : Detached s.1) :
    (c.run s).2.1.channelId? = s.1.channelId? := by
  have kept := c.run_detached (R := SameWire) SameWire.refl (fun _ _ _ first second => first.trans second)
    (fun _ => .of_same rfl rfl) (fun act s _ => act.run_wire s) d
  exact kept.1.channelId?

end Acts

end HttpRequest.Body
