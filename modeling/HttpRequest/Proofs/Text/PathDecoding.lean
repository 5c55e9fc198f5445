import HttpRequest.Proofs.Param.Component
import HttpRequest.Proofs.Text.Path

/-! # Decoding paths

A path may be written in many ways: the percent sign as an escape, and every other byte as it is or as an escape.
Decoding undoes them all and refuses exactly what is no way to write any bytes; no other sign stands for something
else than itself. The encoding of the characters is chosen by the bytes as a whole.
-/
namespace HttpRequest

namespace Escape

/-- How bytes may be written with escapes. -/
inductive Spells : Octets → Octets → Prop where
  | nil : Spells [] []
  | literal {b : UInt8} {bs raw : Octets} : b ≠ 0x25 → Spells bs raw → Spells (b :: bs) (b :: raw)
  | escape (b : UInt8) (highCase lowCase : Bool) {bs raw : Octets} : Spells bs raw →
    Spells (b :: bs) (0x25 :: hexDigit highCase (b.toNat / 16) :: hexDigit lowCase (b.toNat % 16) :: raw)

theorem decode?_of_spells {bs raw : Octets} (spells : Spells bs raw) : decode? raw = some bs := by
  -- By induction on the spelling: an escape is past its digits at once, and a byte that is none
  -- is kept.
  have read : wellFormed raw = true ∧ undo raw = bs := by
    rw [wellFormed_iff]
    induction spells with
    | nil => exact ⟨not_malformed_nil,rfl⟩
    | literal other _ ih =>
      rw [malformed_cons_of_ne other, undo_of_ne other]
      exact ⟨ih.1,congrArg _ ih.2⟩
    | escape b highCase lowCase _ ih =>
      have small := b.toNat_lt
      have high := isHexDigit_hexDigit highCase (show b.toNat / 16 < 16 by omega)
      have low := isHexDigit_hexDigit lowCase (show b.toNat % 16 < 16 by omega)
      rw [malformed_escape_iff high low, undo_escape (escaped?_hexDigit highCase lowCase b)]
      exact ⟨ih.1,congrArg _ ih.2⟩
  rw [decode?, if_pos read.1, read.2]

theorem exists_spells_of_sound {raw : Octets} (sound : ¬Malformed raw) : ∃ bs, Spells bs raw := by
  refine sound_induction (motive := fun raw => ∃ bs, Spells bs raw) sound ⟨[],.nil⟩ ?_ ?_
  · rintro b raw other ⟨bs,spells⟩
    exact ⟨b :: bs,.literal other spells⟩
  · rintro b highCase lowCase raw ⟨bs,spells⟩
    exact ⟨b :: bs,.escape b highCase lowCase spells⟩

theorem decode?_eq_some_iff {bs raw : Octets} : decode? raw = some bs ↔ Spells bs raw := by
  refine ⟨fun decoded => ?_,decode?_of_spells⟩
  have sound : ¬Malformed raw := fun bad => by
    rw [(decode?_eq_none_iff raw).mpr bad] at decoded
    cases decoded
  obtain ⟨other,spells⟩ := exists_spells_of_sound sound
  cases decoded.symm.trans (decode?_of_spells spells)
  exact spells

end Escape

namespace Path

/-- The text that bytes are read as: in UTF-8 if they are that, and if not, one character for each. -/
def ReadAs (bs : Octets) (text : String) : Prop :=
  Charset.utf8.Represents text bs ∨
    (¬∃ other, Charset.utf8.Represents other bs) ∧ Charset.latin1.Represents text bs

theorem decode_eq_ok_iff {raw text : String} :
    decode raw = .ok text ↔ ∃ bs, Escape.Spells bs (octetsOf raw) ∧ ReadAs bs text := by
  simp only [← Escape.decode?_eq_some_iff, ReadAs, ← Charset.decode?_eq_some_iff]
  unfold decode
  cases Escape.decode? (octetsOf raw) with
  | none => simp
  | some bs =>
    dsimp only
    cases chars : Utf8.decode? bs <;> simp [Charset.decode?, chars]

/-- A path is decoded to what its bytes are read as once all escapes are undone, and refused with status 400 exactly if
a percent sign is met from the left that two hexadecimal digits do not follow. So whatever bytes of a text are
escaped, all percent signs among them, the text comes back. -/
theorem decode_grammar (raw : String) :
    (∀ text, decode raw = .ok text ↔ ∃ bs, Escape.Spells bs (octetsOf raw) ∧ ReadAs bs text) ∧
      (∀ f, decode raw = .error f ↔
        f = .badMessage 400 "Bad URI" ∧ ∃ back, Escape.Meets (octetsOf raw) back ∧ ¬Escape.Continues back) ∧
      ∀ text, Escape.Spells (octetsOf text) (octetsOf raw) → decode raw = .ok text := by
  refine ⟨fun text => decode_eq_ok_iff,fun f => ?_,fun text spells => ?_⟩
  · rw [decode_eq_error_iff, Escape.malformed_iff_meets]
    rfl
  · exact decode_eq_ok_iff.mpr ⟨octetsOf text,spells,.inl rfl⟩

/-- A character may be written with escapes in digits of any case, and a plus is a plus. -/
theorem decode_escapedText :
    Escape.Spells (octetsOf "/é%+") (octetsOf "/%C3%a9%25+") ∧ decode "/%C3%a9%25+" = .ok "/é%+" := by
  have spells : Escape.Spells (octetsOf "/é%+") (octetsOf "/%C3%a9%25+") :=
    .literal (by decide) (.escape 0xC3 true true (.escape 0xA9 false false (.escape 0x25 true true
      (.literal (by decide) .nil))))
  exact ⟨spells,(decode_grammar _).2.2 _ spells⟩

end Path

end HttpRequest
