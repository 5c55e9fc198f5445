import HttpRequest.Proofs.Param.Encoding
import Mathlib.Logic.ExistsUnique

/-! # Names and values that decode

A name or value is read twice: one reading looks whether its escapes are in order, and another, which
would let anything pass, undoes them. Together they accept exactly the spellings of bytes that are a text
in the encoding, where a percent sign or a plus sign never stands for itself, and give that text. What a
spelling stands for can be read off it in one pass from the left.
-/
namespace HttpRequest

namespace Escape

/-- A reading from the left, past whole escapes, meets a percent sign with `back` behind it. -/
inductive Meets : Octets → Octets → Prop where
  | here (back : Octets) : Meets (0x25 :: back) back
  | pass {b : UInt8} {bs back : Octets} : b ≠ 0x25 → Meets bs back → Meets (b :: bs) back
  | skip {x y : UInt8} {rest back : Octets} : IsHexDigit x → IsHexDigit y → Meets rest back →
    Meets (0x25 :: x :: y :: rest) back

theorem malformed_iff_meets (bs : Octets) : Malformed bs ↔ ∃ back, Meets bs back ∧ ¬Continues back := by
  constructor
  · intro bad
    induction bs using wellFormed.induct with
    | case1 => exact absurd bad not_malformed_nil
    | case2 x y rest ih =>
      by_cases digits : IsHexDigit x ∧ IsHexDigit y
      · rw [malformed_escape_iff digits.1 digits.2] at bad
        obtain ⟨back,meets,out⟩ := ih bad
        exact ⟨back,.skip digits.1 digits.2 meets,out⟩
      · exact ⟨x :: y :: rest,.here _,digits⟩
    | case3 bs short => exact ⟨bs,.here bs,not_continues_of_short short⟩
    | case4 b bs other ih =>
      rw [malformed_cons_of_ne other] at bad
      obtain ⟨back,meets,out⟩ := ih bad
      exact ⟨back,.pass other meets,out⟩
  · rintro ⟨back,meets,out⟩
    induction meets with
    | here back => exact malformed_of_not_continues out
    | pass other _ ih => exact (malformed_cons_of_ne other).mpr (ih out)
    | skip hx hy _ ih => exact (malformed_escape_iff hx hy).mpr (ih out)

theorem IsHexDigit.exists_hexDigit {b : UInt8} (digit : IsHexDigit b) : ∃ upper n, n < 16 ∧ b = hexDigit upper n := by
  have byte := b.toNat_lt
  simp only [IsHexDigit, UInt8.le_iff_toNat_le, UInt8.reduceToNat] at digit
  simp only [hexDigit, ← UInt8.toNat_inj, UInt8.toNat_ofNat']
  rcases digit with decimal | upper | lower
  · exact ⟨true,b.toNat - 0x30,by omega,by rw [if_pos (by omega)]; omega⟩
  · exact ⟨true,b.toNat - 0x37,by omega,by rw [if_neg (by omega), if_pos rfl]; omega⟩
  · exact ⟨false,b.toNat - 0x57,by omega,by rw [if_neg (by omega), if_neg Bool.false_ne_true]; omega⟩

theorem exists_byte {x y : UInt8} (hx : IsHexDigit x) (hy : IsHexDigit y) : ∃ (b : UInt8) (highCase lowCase : Bool),
    x = hexDigit highCase (b.toNat / 16) ∧ y = hexDigit lowCase (b.toNat % 16) := by
  obtain ⟨highCase,high,small,rfl⟩ := hx.exists_hexDigit
  obtain ⟨lowCase,low,small',rfl⟩ := hy.exists_hexDigit
  have number : (UInt8.ofNat (high * 16 + low)).toNat = high * 16 + low := by
    rw [UInt8.toNat_ofNat']
    omega
  refine ⟨UInt8.ofNat (high * 16 + low),highCase,lowCase,?_,?_⟩
  · rw [number, show (high * 16 + low) / 16 = high by omega]
  · rw [number, show (high * 16 + low) % 16 = low by omega]

/-- What is in order is made of bytes and escapes of bytes. By induction as escapes are checked. -/
theorem sound_induction {motive : Octets → Prop} {raw : Octets} (sound : ¬Malformed raw) (nil : motive [])
    (literal : ∀ (b : UInt8) (bs : Octets), b ≠ 0x25 → motive bs → motive (b :: bs))
    (escape : ∀ (b : UInt8) (highCase lowCase : Bool) (bs : Octets), motive bs →
      motive (0x25 :: hexDigit highCase (b.toNat / 16) :: hexDigit lowCase (b.toNat % 16) :: bs)) : motive raw := by
  induction raw using wellFormed.induct with
  | case1 => exact nil
  | case2 x y rest ih =>
    by_cases digits : IsHexDigit x ∧ IsHexDigit y
    · rw [malformed_escape_iff digits.1 digits.2] at sound
      obtain ⟨b,highCase,lowCase,rfl,rfl⟩ := exists_byte digits.1 digits.2
      exact escape b highCase lowCase rest (ih sound)
    · have bad : Malformed (0x25 :: x :: y :: rest) := malformed_of_not_continues digits
      exact absurd bad sound
  | case3 bs short =>
    have bad := malformed_of_not_continues (not_continues_of_short short)
    exact absurd bad sound
  | case4 b bs other ih =>
    rw [malformed_cons_of_ne other] at sound
    exact literal b bs other (ih sound)

end Escape

namespace Charset
variable {charset : Charset} {text : String} {bs : Octets}

theorem latin1Chars_toNat (bs : Octets) : (latin1Chars bs).map Char.toNat = bs.map UInt8.toNat := by
  rw [latin1Chars, List.map_map]
  refine List.map_congr_left fun b _ => ?_
  have small := b.toNat_lt
  exact Utf8.toNat_ofNat (by omega)

theorem decode?_eq_some_iff : charset.decode? bs = some text ↔ charset.Represents text bs := by
  refine ⟨fun decoded => ?_,decode?_of_represents⟩
  cases charset with
  | utf8 => exact Utf8.decode?_eq_some_iff.mp decoded
  | latin1 =>
    cases decoded
    rw [Represents, String.toList_ofList, latin1Chars_toNat]

end Charset

namespace Form

def signs : Octets :=
  [0x25,0x2B]

theorem exists_spells {raw : Octets} (sound : ¬Escape.Malformed raw) : ∃ bs, Spells signs bs raw := by
  refine Escape.sound_induction (motive := fun raw => ∃ bs, Spells signs bs raw) sound ⟨[],.nil⟩ ?_ ?_
  · rintro b raw other ⟨bs,spells⟩
    by_cases plus : b = 0x2B
    · exact ⟨0x20 :: bs,plus ▸ .plus spells⟩
    · exact ⟨b :: bs,.literal (by simp [signs, other, plus]) spells⟩
  · rintro b highCase lowCase raw ⟨bs,spells⟩
    exact ⟨b :: bs,.escape b highCase lowCase spells⟩

theorem existsUnique_spells_iff (raw : Octets) : (∃! bs, Spells signs bs raw) ↔ ¬Escape.Malformed raw := by
  constructor
  · rintro ⟨bs,spells,-⟩
    exact spells.not_malformed (by decide)
  · intro sound
    obtain ⟨bs,spells⟩ := exists_spells sound
    refine ⟨bs,spells,fun other spells' => ?_⟩
    exact (spells'.undo (by decide) (by decide)).symm.trans (spells.undo (by decide) (by decide))

theorem component_of_malformed {raw : Octets} (bad : Escape.Malformed raw) (charset : Charset) :
    component charset raw = .error (.badMessage 400 "Bad escape sequence") := by
  have refused : ¬Escape.wellFormed raw = true := fun passed => (Escape.wellFormed_iff raw).mp passed bad
  rw [component, if_neg refused]
  rfl

theorem component_of_unreadable {bs raw : Octets} {charset : Charset} (spells : Spells signs bs raw)
    (unreadable : ¬∃ text, charset.Represents text bs) :
    component charset raw = .error (.badMessage 400 ("Not valid " ++ charset.name)) := by
  have undecoded : charset.decode? bs = none :=
    Option.eq_none_iff_forall_ne_some.mpr fun text decoded => unreadable ⟨text,Charset.decode?_eq_some_iff.mp decoded⟩
  rw [component, if_pos ((Escape.wellFormed_iff raw).mpr (spells.not_malformed (by decide))),
    spells.undo (by decide) (by decide), undecoded]
  rfl

/-- A name or value decodes exactly if two hexadecimal digits follow every percent sign that is met from the
left past whole escapes, so that it spells certain bytes, and if these bytes are a text in the encoding; then
it decodes to this text. Whatever does not decode fails for the one or the other, with one status. -/
theorem component_grammar (charset : Charset) (raw : Octets) :
    ((∃! bs, Spells signs bs raw) ↔ ∀ back, Escape.Meets raw back → Escape.Continues back) ∧
      (∀ text, component charset raw = .ok text ↔ ∃ bs, Spells signs bs raw ∧ charset.Represents text bs) ∧
      ((¬∃ bs, Spells signs bs raw) → component charset raw = .error (.badMessage 400 "Bad escape sequence")) ∧
      ∀ bs, Spells signs bs raw → (¬∃ text, charset.Represents text bs) →
        component charset raw = .error (.badMessage 400 ("Not valid " ++ charset.name)) := by
  refine ⟨?_,fun text => ⟨fun decoded => ?_,?_⟩,fun none => ?_,fun bs => component_of_unreadable⟩
  · rw [existsUnique_spells_iff, Escape.malformed_iff_meets]
    push Not
    rfl
  · by_cases bad : Escape.Malformed raw
    · rw [component_of_malformed bad] at decoded
      cases decoded
    obtain ⟨bs,spells⟩ := exists_spells bad
    by_cases readable : ∃ text, charset.Represents text bs
    · obtain ⟨other,represents⟩ := readable
      rw [component_of_spells represents spells (by decide) (by decide)] at decoded
      cases decoded
      exact ⟨bs,spells,represents⟩
    · rw [component_of_unreadable spells readable] at decoded
      cases decoded
  · rintro ⟨bs,spells,represents⟩
    exact component_of_spells represents spells (by decide) (by decide)
  · refine component_of_malformed (by_contra fun sound => none (exists_spells sound)) charset

/-- The first percent sign is refused; by itself the reading that undoes escapes would keep it. -/
example : component .utf8 (octetsOf "%%41") = .error (.badMessage 400 "Bad escape sequence") ∧
    Escape.undo (octetsOf "%%41") = octetsOf "%A" :=
  ⟨rfl,rfl⟩

end Form

end HttpRequest
