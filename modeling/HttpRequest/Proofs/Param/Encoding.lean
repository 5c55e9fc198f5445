import HttpRequest.Param.Form
import HttpRequest.Proofs.Text.Escape
import HttpRequest.Proofs.Text.Utf8

/-! # Form encoding

There are many ways to write a list of pairs as a form: most bytes may be written as they are or as an
escape, in either case of its digits, a space also as a plus sign, a pair without a value also without
an equals sign, and between the pairs there may be empty segments. Decoding undoes them all. The signs
that divide the form never stand for themselves within a name or a value, so splitting comes first;
escapes are undone after plus signs, so an escaped plus sign stays one; and the bytes are read as text
in the end.
-/
namespace HttpRequest

/-- The bytes that a text is written as. Only a text whose characters have one-byte numbers has bytes in
ISO-8859-1. -/
def Charset.Represents : Charset → String → Octets → Prop
  | .utf8, text, bs => bs = octetsOf text
  | .latin1, text, bs => text.toList.map Char.toNat = bs.map UInt8.toNat

namespace Charset
variable {charset : Charset} {text : String} {bs : Octets}

theorem decode?_of_represents (represents : charset.Represents text bs) : charset.decode? bs = some text := by
  cases charset with
  | utf8 =>
    cases represents
    exact Utf8.decode?_octetsOf text
  | latin1 =>
    have chars : latin1Chars bs = text.toList := by
      have numbers := congrArg (List.map Char.ofNat) represents
      simpa [latin1Chars, List.map_map, Function.comp_def] using numbers.symm
    rw [decode?, chars, String.ofList_toList]

theorem represents_nil_iff : charset.Represents text [] ↔ text = "" := by
  cases charset with
  | utf8 =>
    constructor
    · intro represents
      have read := decode?_of_represents represents
      exact (Option.some.inj read).symm
    · rintro rfl
      rfl
  | latin1 => simp [Represents]

end Charset

namespace Escape

/-- The digits of an escape, whose letters may be of either case. -/
def hexDigit (upper : Bool) (n : Nat) : UInt8 :=
  UInt8.ofNat (if n < 10 then 0x30 + n else if upper then 0x37 + n else 0x57 + n)

theorem hexValue?_hexDigit (upper : Bool) {n : Nat} (digit : n < 16) :
    hexValue? (hexDigit upper n) = some (UInt8.ofNat n) := by
  have all : ∀ upper : Bool, ∀ n : Fin 16, hexValue? (hexDigit upper n) = some (UInt8.ofNat n) := by decide
  exact all upper ⟨n,digit⟩

theorem escaped?_hexDigit (highCase lowCase : Bool) (b : UInt8) :
    escaped? (hexDigit highCase (b.toNat / 16)) (hexDigit lowCase (b.toNat % 16)) = some b := by
  have small := b.toNat_lt
  have high : b.toNat / 16 < 16 := by omega
  have low : b.toNat % 16 < 16 := by omega
  simp only [escaped?, hexValue?_hexDigit highCase high, hexValue?_hexDigit lowCase low, Option.some.injEq]
  apply UInt8.toNat_inj.mp
  simp only [UInt8.toNat_add, UInt8.toNat_mul, UInt8.toNat_ofNat', UInt8.reduceToNat]
  omega

theorem isHexDigit_hexDigit (upper : Bool) {n : Nat} (digit : n < 16) : IsHexDigit (hexDigit upper n) := by
  rw [← hexValue?_isSome_iff, hexValue?_hexDigit upper digit]
  rfl

theorem ne_hexDigit {sign : UInt8} (noDigit : ¬IsHexDigit sign) (upper : Bool) {n : Nat} (digit : n < 16) :
    sign ≠ hexDigit upper n := by
  rintro rfl
  exact noDigit (isHexDigit_hexDigit upper digit)

theorem plusToSpace_escape (highCase lowCase : Bool) (b : UInt8) (rest : Octets) :
    plusToSpace (0x25 :: hexDigit highCase (b.toNat / 16) :: hexDigit lowCase (b.toNat % 16) :: rest) =
      0x25 :: hexDigit highCase (b.toNat / 16) :: hexDigit lowCase (b.toNat % 16) :: plusToSpace rest := by
  have small := b.toNat_lt
  have noDigit : ¬IsHexDigit 0x2B := by unfold IsHexDigit; decide
  have high : 0x2B ≠ hexDigit highCase (b.toNat / 16) := ne_hexDigit noDigit highCase (by omega)
  have low : 0x2B ≠ hexDigit lowCase (b.toNat % 16) := ne_hexDigit noDigit lowCase (by omega)
  simp [plusToSpace, high.symm, low.symm]

end Escape

namespace Form

def reserved : Octets :=
  [0x25,0x26,0x2B]

def reservedInName : Octets :=
  0x3D :: reserved

/-- How bytes may be spelled where some signs are reserved. -/
inductive Spells (reserved : Octets) : Octets → Octets → Prop where
  | nil : Spells reserved [] []
  | literal {b : UInt8} {bs raw : Octets} :
    b ∉ reserved → Spells reserved bs raw → Spells reserved (b :: bs) (b :: raw)
  | plus {bs raw : Octets} : Spells reserved bs raw → Spells reserved (0x20 :: bs) (0x2B :: raw)
  | escape (b : UInt8) (highCase lowCase : Bool) {bs raw : Octets} : Spells reserved bs raw →
    Spells reserved (b :: bs)
      (0x25 :: Escape.hexDigit highCase (b.toNat / 16) :: Escape.hexDigit lowCase (b.toNat % 16) :: raw)

/-- How a pair may be spelled. The equals sign may be left out in front of an empty value. -/
inductive SpellsPair (charset : Charset) : String × String → Octets → Prop where
  | full {name value : String} {nameBytes valueBytes rawName rawValue : Octets} :
    charset.Represents name nameBytes → Spells reservedInName nameBytes rawName →
    charset.Represents value valueBytes → Spells reserved valueBytes rawValue →
    SpellsPair charset (name,value) (rawName ++ 0x3D :: rawValue)
  | bare {name : String} {nameBytes rawName : Octets} :
    charset.Represents name nameBytes → Spells reservedInName nameBytes rawName →
    SpellsPair charset (name,"") rawName

/-- How pairs may be spelled as segments, with empty segments anywhere. -/
inductive SpellsPairs (charset : Charset) : List (String × String) → List Octets → Prop where
  | nil : SpellsPairs charset [] []
  | gap {pairs : List (String × String)} {segments : List Octets} :
    SpellsPairs charset pairs segments → SpellsPairs charset pairs ([] :: segments)
  | pair {pair : String × String} {segment : Octets} {pairs : List (String × String)} {segments : List Octets} :
    SpellsPair charset pair segment → SpellsPairs charset pairs segments →
    SpellsPairs charset (pair :: pairs) (segment :: segments)

/-- Bytes that encode a list of pairs: segments joined by ampersands. -/
def Encodes (charset : Charset) (pairs : List (String × String)) (input : Octets) : Prop :=
  ∃ segments, SpellsPairs charset pairs segments ∧ input = [0x26].intercalate segments

section Spelling
variable {signs bs raw : Octets}

theorem Spells.not_mem {sign : UInt8} (spells : Spells signs bs raw) (isReserved : sign ∈ signs)
    (noDigit : ¬Escape.IsHexDigit sign) (noPlus : sign ≠ 0x2B) (noPercent : sign ≠ 0x25) : sign ∉ raw := by
  induction spells with
  | nil => simp
  | @literal b _ _ free _ ih =>
    have apart : sign ≠ b := by
      rintro rfl
      exact free isReserved
    simp [apart, ih]
  | plus _ ih => simp [noPlus, ih]
  | escape b highCase lowCase _ ih =>
    have small := b.toNat_lt
    have high : sign ≠ Escape.hexDigit highCase (b.toNat / 16) := Escape.ne_hexDigit noDigit highCase (by omega)
    have low : sign ≠ Escape.hexDigit lowCase (b.toNat % 16) := Escape.ne_hexDigit noDigit lowCase (by omega)
    simp [noPercent, high, low, ih]

theorem Spells.not_malformed (spells : Spells signs bs raw) (percent : 0x25 ∈ signs) : ¬Escape.Malformed raw := by
  -- By induction on the spelling: a percent sign stands only where an escape begins.
  induction spells with
  | nil => exact Escape.not_malformed_nil
  | @literal b _ _ free _ ih =>
    have noPercent : b ≠ 0x25 := fun same => free (same ▸ percent)
    rwa [Escape.malformed_cons_of_ne noPercent]
  | plus _ ih => rwa [Escape.malformed_cons_of_ne (by decide)]
  | escape b highCase lowCase _ ih =>
    have small := b.toNat_lt
    have high := Escape.isHexDigit_hexDigit highCase (show b.toNat / 16 < 16 by omega)
    have low := Escape.isHexDigit_hexDigit lowCase (show b.toNat % 16 < 16 by omega)
    rwa [Escape.malformed_escape_iff high low]

theorem Spells.undo (spells : Spells signs bs raw) (percent : 0x25 ∈ signs) (plus : 0x2B ∈ signs) :
    Escape.undo (Escape.plusToSpace raw) = bs := by
  -- By induction on the spelling: each byte is read back from whatever it was written as.
  induction spells with
  | nil => rfl
  | @literal b bs raw free _ ih =>
    have noPercent : b ≠ 0x25 := fun same => free (same ▸ percent)
    have noPlus : b ≠ 0x2B := fun same => free (same ▸ plus)
    have kept : Escape.plusToSpace (b :: raw) = b :: Escape.plusToSpace raw := by simp [Escape.plusToSpace, noPlus]
    rw [kept, Escape.undo_of_ne noPercent, ih]
  | @plus bs raw _ ih =>
    have space : Escape.plusToSpace (0x2B :: raw) = 0x20 :: Escape.plusToSpace raw := by simp [Escape.plusToSpace]
    rw [space, Escape.undo_of_ne (by decide), ih]
  | @escape b highCase lowCase bs raw _ ih =>
    rw [Escape.plusToSpace_escape, Escape.undo_escape (Escape.escaped?_hexDigit highCase lowCase b), ih]

theorem component_of_spells {charset : Charset} {text : String} (represents : charset.Represents text bs)
    (spells : Spells signs bs raw) (percent : 0x25 ∈ signs) (plus : 0x2B ∈ signs) : component charset raw = .ok text := by
  rw [component, if_pos ((Escape.wellFormed_iff raw).mpr (spells.not_malformed percent)), spells.undo percent plus,
    Charset.decode?_of_represents represents]

theorem Spells.eq_nil_iff (spells : Spells signs bs raw) : raw = [] ↔ bs = [] := by
  cases spells <;> simp

theorem Spells.no_ampersand (spells : Spells signs bs raw) (ampersand : 0x26 ∈ signs) : 0x26 ∉ raw := by
  have noDigit : ¬Escape.IsHexDigit 0x26 := by unfold Escape.IsHexDigit; decide
  exact spells.not_mem ampersand noDigit (by decide) (by decide)

theorem Spells.no_equals (spells : Spells reservedInName bs raw) : 0x3D ∉ raw := by
  have noDigit : ¬Escape.IsHexDigit 0x3D := by unfold Escape.IsHexDigit; decide
  exact spells.not_mem (by decide) noDigit (by decide) (by decide)

end Spelling

section Pairs
variable {charset : Charset} {segment : Octets}

theorem name_not_empty {name : String} {bs raw : Octets} (represents : charset.Represents name bs)
    (spells : Spells reservedInName bs raw) (named : name ≠ "") : raw ≠ [] := by
  intro empty
  rw [spells.eq_nil_iff] at empty
  rw [empty, Charset.represents_nil_iff] at represents
  exact named represents

theorem SpellsPair.read {pair : String × String} (spells : SpellsPair charset pair segment) (named : pair.1 ≠ "") :
    0x26 ∉ segment ∧ ∃ raw, rawPair? segment = some raw ∧ Form.pair charset raw = .ok pair := by
  cases spells with
  | @full name value nameBytes valueBytes rawName rawValue nameIs nameSpelled valueIs valueSpelled =>
    have written := name_not_empty nameIs nameSpelled named
    refine ⟨?_,(rawName,rawValue),?_,?_⟩
    · simp [nameSpelled.no_ampersand (by decide), valueSpelled.no_ampersand (by decide)]
    · simp [rawPair?, cutAt_append nameSpelled.no_equals, written]
    · simp only [Form.pair, component_of_spells nameIs nameSpelled (by decide) (by decide),
        component_of_spells valueIs valueSpelled (by decide) (by decide)]
  | bare nameIs nameSpelled =>
    have written := name_not_empty nameIs nameSpelled named
    have missing : component charset [] = .ok "" :=
      component_of_spells (Charset.represents_nil_iff.mpr rfl) (.nil : Spells reserved [] []) (by decide) (by decide)
    refine ⟨nameSpelled.no_ampersand (by decide),(segment,[]),?_,?_⟩
    · simp [rawPair?, cutAt_of_not_mem nameSpelled.no_equals, written]
    · simp only [Form.pair, component_of_spells nameIs nameSpelled (by decide) (by decide), missing]

variable {pairs : List (String × String)} {segments : List Octets}

theorem SpellsPairs.plain (spells : SpellsPairs charset pairs segments) (named : ∀ p ∈ pairs, p.1 ≠ "") :
    ∀ segment ∈ segments, 0x26 ∉ segment := by
  induction spells with
  | nil => simp
  | gap _ ih =>
    rw [List.forall_mem_cons]
    exact ⟨by simp,ih named⟩
  | pair first _ ih =>
    rw [List.forall_mem_cons] at named ⊢
    exact ⟨(first.read named.1).1,ih named.2⟩

theorem SpellsPairs.addPairs (spells : SpellsPairs charset pairs segments) (named : ∀ p ∈ pairs, p.1 ≠ "")
    (t : ParamTable) : addPairs charset none t (segments.filterMap rawPair?) =
      (.ok (),pairs.foldl (fun t pair => t.add pair.1 pair.2) t) := by
  -- By induction on the segments: an empty one is skipped, and each pair is added behind those
  -- before.
  induction spells generalizing t with
  | nil => rfl
  | gap _ ih =>
    have skipped : rawPair? [] = none := rfl
    rw [List.filterMap_cons_none skipped]
    exact ih named t
  | @pair pair _ _ _ first _ ih =>
    rw [List.forall_mem_cons] at named
    obtain ⟨-,raw,cut,read⟩ := first.read named.1
    rw [List.filterMap_cons_some cut]
    simp only [Form.addPairs, read, within]
    exact ih named.2 (t.add pair.1 pair.2)

theorem SpellsPairs.rawPairs (spells : SpellsPairs charset pairs segments) (named : ∀ p ∈ pairs, p.1 ≠ "") :
    rawPairs ([0x26].intercalate segments) = segments.filterMap rawPair? := by
  cases segments with
  | nil => rfl
  | cons segment rest =>
    rw [Form.rawPairs, List.splitOn_intercalate 0x26 (spells.plain named) (by simp)]

end Pairs

/-- Whatever way a list of pairs with names is encoded, in either encoding of its characters: without a
limit on the keys the pairs are all decoded, and added to a table in their order. -/
theorem decode_of_encodes {charset : Charset} {pairs : List (String × String)} {input : Octets}
    (named : ∀ p ∈ pairs, p.1 ≠ "") (encodes : Encodes charset pairs input) :
    (∀ t, decodeInto t input charset none = (.ok (),pairs.foldl (fun t pair => t.add pair.1 pair.2) t)) ∧
      decode input charset none = .ok (.ofPairs pairs) := by
  obtain ⟨segments,spells,rfl⟩ := encodes
  have into (t : ParamTable) : decodeInto t ([0x26].intercalate segments) charset none =
      (.ok (),pairs.foldl (fun t pair => t.add pair.1 pair.2) t) := by
    rw [decodeInto, spells.rawPairs named]
    exact spells.addPairs named t
  refine ⟨into,?_⟩
  rw [decode, into]
  rfl

/-- A name twice, once with a plus sign and once with an escape for its space, escapes in either case,
a pair without an equals sign, and two empty segments. -/
theorem decode_of_mixed : Encodes .utf8 [("a b","é="),("c",""),("a b","+")] (octetsOf "&a+b=%c3%A9=&&c&a%20b=%2b") ∧
    decode (octetsOf "&a+b=%c3%A9=&&c&a%20b=%2b") .utf8 none = .ok (.ofPairs [("a b","é="),("c",""),("a b","+")]) := by
  have plusName : Spells reservedInName (octetsOf "a b") (octetsOf "a+b") :=
    .literal (by decide) (.plus (.literal (by decide) .nil))
  have escapedName : Spells reservedInName (octetsOf "a b") (octetsOf "a%20b") :=
    .literal (by decide) (.escape 0x20 true true (.literal (by decide) .nil))
  have bareName : Spells reservedInName (octetsOf "c") (octetsOf "c") := .literal (by decide) .nil
  have accent : Spells reserved (octetsOf "é=") (octetsOf "%c3%A9=") :=
    .escape 0xC3 false true (.escape 0xA9 true true (.literal (by decide) .nil))
  have plusSign : Spells reserved (octetsOf "+") (octetsOf "%2b") := .escape 0x2B true false .nil
  have bytes (text : String) : Charset.utf8.Represents text (octetsOf text) := rfl
  have first : SpellsPair .utf8 ("a b","é=") (octetsOf "a+b=%c3%A9=") :=
    .full (bytes "a b") plusName (bytes "é=") accent
  have last : SpellsPair .utf8 ("a b","+") (octetsOf "a%20b=%2b") :=
    .full (bytes "a b") escapedName (bytes "+") plusSign
  have encodes : Encodes .utf8 [("a b","é="),("c",""),("a b","+")] (octetsOf "&a+b=%c3%A9=&&c&a%20b=%2b") :=
    ⟨["","a+b=%c3%A9=","","c","a%20b=%2b"].map octetsOf,
      .gap (.pair first (.gap (.pair (.bare (bytes "c") bareName) (.pair last .nil)))),by decide +kernel⟩
  exact ⟨encodes,(decode_of_encodes (by decide) encodes).2⟩

end Form

end HttpRequest
