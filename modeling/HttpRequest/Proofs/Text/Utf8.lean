import HttpRequest.Text.Utf8
import Mathlib.Data.Nat.Find

/-! # What lossy decoding stands for

Bytes stand for a text if they fall into the UTF-8 forms of its characters, where a replacement
character stands for bytes that no character begins with: the longest beginning of a character that is
there, or a single byte. The machine that decodes one byte after another finds this text. It accepts
the forms of the characters and nothing else, and from every state that it reaches it can still accept
something, so it refuses a byte only where no character goes on. Strict decoding, which is the same machine
without replacement, reads every text back from its form.
-/
namespace HttpRequest.Utf8

open String (utf8EncodeChar)

def Begins (bs : Octets) : Prop :=
  ∃ c, bs <+: utf8EncodeChar c

/-- The bytes of `bad` that are to be replaced when `rest` follows them. -/
structure Broken (bad rest : Octets) : Prop where
  nonempty : bad ≠ []
  ill : ∀ c, ¬utf8EncodeChar c <+: bad ++ rest
  begins : Begins bad ∨ bad.length = 1
  longest : ∀ longer, longer <+: bad ++ rest → bad.length < longer.length → ¬Begins longer

/-- The text that bytes stand for. -/
inductive Lossy : Octets → List Char → Prop where
  | nil : Lossy [] []
  | char (c : Char) {rest : Octets} {text : List Char} :
    Lossy rest text → Lossy (utf8EncodeChar c ++ rest) (c :: text)
  | broken {bad rest : Octets} {text : List Char} :
    Broken bad rest → Lossy rest text → Lossy (bad ++ rest) (replacement :: text)

section Machine

/-- From a state on, the bytes give one character and no less. -/
def Accepts : State → Octets → Char → Prop
  | _, [], _ => False
  | s, b :: bs, c =>
    match step s b with
    | .wait next => Accepts next bs c
    | .char d => bs = [] ∧ d = c
    | .refused => False

/-- The state after bytes that do not finish a character. -/
def waits : State → Octets → Option State
  | s, [] => some s
  | s, b :: bs =>
    match step s b with
    | .wait next => waits next bs
    | _ => none

theorem accepts_of_wait {s next : State} {b : UInt8} (read : step s b = .wait next) (bs : Octets)
    (c : Char) : Accepts s (b :: bs) c ↔ Accepts next bs c := by
  simp only [Accepts, read]

theorem accepts_of_char {s : State} {b : UInt8} {d : Char} (read : step s b = .char d) (bs : Octets)
    (c : Char) : Accepts s (b :: bs) c ↔ bs = [] ∧ d = c := by
  simp only [Accepts, read]

theorem accepts_inside_last {low high : UInt8} {bits : Nat} {bs : Octets} {c : Char} :
    Accepts (.inside 1 low high bits) bs c ↔
      ∃ b, bs = [b] ∧ low ≤ b ∧ b ≤ high ∧ Char.ofNat (bits * 64 + (b.toNat - 0x80)) = c := by
  cases bs with
  | nil => simp [Accepts]
  | cons b bs =>
    simp only [Accepts, step, later]
    by_cases fits : low ≤ b ∧ b ≤ high
    · simp [fits, and_assoc]
    · simp only [fits, if_false, false_iff]
      rintro ⟨d,same,above,below,-⟩
      cases same
      exact fits ⟨above,below⟩

theorem accepts_inside {left : Nat} {low high : UInt8} {bits : Nat} {bs : Octets} {c : Char} :
    Accepts (.inside (left + 2) low high bits) bs c ↔
      ∃ b rest, bs = b :: rest ∧ low ≤ b ∧ b ≤ high ∧
        Accepts (.inside (left + 1) 0x80 0xBF (bits * 64 + (b.toNat - 0x80))) rest c := by
  cases bs with
  | nil => simp [Accepts]
  | cons b bs =>
    have more : ¬left + 2 ≤ 1 := by omega
    conv_lhs => simp only [Accepts, step, later, more, if_false]
    by_cases fits : low ≤ b ∧ b ≤ high
    · simp [fits, and_assoc]
    · simp only [fits, if_false, false_iff]
      rintro ⟨d,rest,same,above,below,-⟩
      cases same
      exact fits ⟨above,below⟩

end Machine

section Characters

theorem toNat_ofNat {v : Nat} (valid : v.isValidChar) : (Char.ofNat v).toNat = v := by
  rw [Char.ofNat, dif_pos valid]
  rfl

variable {v : Nat}

theorem encode_one (small : v ≤ 0x7F) : utf8EncodeChar (Char.ofNat v) = [UInt8.ofNat v] := by
  have same := toNat_ofNat (v := v) (by omega)
  simp only [utf8EncodeChar, Char.toNat_val, same]
  rw [if_pos small]

theorem encode_two (large : 0x80 ≤ v) (small : v ≤ 0x7FF) : utf8EncodeChar (Char.ofNat v) =
    [UInt8.ofNat (v / 64 % 32 + 0xC0),UInt8.ofNat (v % 64 + 0x80)] := by
  have same := toNat_ofNat (v := v) (by omega)
  simp only [utf8EncodeChar, Char.toNat_val, same]
  rw [if_neg (by omega), if_pos small]

theorem encode_three (large : 0x800 ≤ v) (small : v ≤ 0xFFFF) (valid : v.isValidChar) :
    utf8EncodeChar (Char.ofNat v) = [UInt8.ofNat (v / 4096 % 16 + 0xE0),
      UInt8.ofNat (v / 64 % 64 + 0x80),UInt8.ofNat (v % 64 + 0x80)] := by
  have same := toNat_ofNat valid
  simp only [utf8EncodeChar, Char.toNat_val, same]
  rw [if_neg (by omega), if_neg (by omega), if_pos small]

theorem encode_four (large : 0x10000 ≤ v) (valid : v.isValidChar) :
    utf8EncodeChar (Char.ofNat v) = [UInt8.ofNat (v / 262144 % 8 + 0xF0),
      UInt8.ofNat (v / 4096 % 64 + 0x80),UInt8.ofNat (v / 64 % 64 + 0x80),UInt8.ofNat (v % 64 + 0x80)] := by
  have same := toNat_ofNat valid
  simp only [utf8EncodeChar, Char.toNat_val, same]
  rw [if_neg (by omega), if_neg (by omega), if_neg (by omega)]

theorem first_one {b : UInt8} (small : b.toNat < 0x80) :
    step .start b = .char (Char.ofNat b.toNat) := by
  simp only [step, first, UInt8.lt_iff_toNat_lt]
  exact if_pos small

theorem first_two {b : UInt8} (above : 0xC2 ≤ b.toNat) (below : b.toNat ≤ 0xDF) :
    step .start b = .wait (.inside 1 0x80 0xBF (b.toNat - 0xC0)) := by
  simp only [step, first, UInt8.lt_iff_toNat_lt, UInt8.le_iff_toNat_le, UInt8.reduceToNat]
  rw [if_neg (by omega), if_pos ⟨above,below⟩]

theorem first_three {b : UInt8} (above : 0xE0 ≤ b.toNat) (below : b.toNat ≤ 0xEF) :
    step .start b = .wait (.inside 2 (if b.toNat = 0xE0 then 0xA0 else 0x80)
      (if b.toNat = 0xED then 0x9F else 0xBF) (b.toNat - 0xE0)) := by
  simp only [step, first, UInt8.lt_iff_toNat_lt, UInt8.le_iff_toNat_le, ← UInt8.toNat_inj,
    UInt8.reduceToNat]
  rw [if_neg (by omega), if_neg (by omega)]
  grind

theorem first_four {b : UInt8} (above : 0xF0 ≤ b.toNat) (below : b.toNat ≤ 0xF4) :
    step .start b = .wait (.inside 3 (if b.toNat = 0xF0 then 0x90 else 0x80)
      (if b.toNat = 0xF4 then 0x8F else 0xBF) (b.toNat - 0xF0)) := by
  simp only [step, first, UInt8.lt_iff_toNat_lt, UInt8.le_iff_toNat_le, ← UInt8.toNat_inj,
    UInt8.reduceToNat]
  rw [if_neg (by omega), if_neg (by omega), if_neg (by omega), if_neg (by omega), if_neg (by omega)]
  grind

theorem first_cases (b : UInt8) : b.toNat < 0x80 ∨ (0xC2 ≤ b.toNat ∧ b.toNat ≤ 0xDF) ∨
    (0xE0 ≤ b.toNat ∧ b.toNat ≤ 0xEF) ∨ (0xF0 ≤ b.toNat ∧ b.toNat ≤ 0xF4) ∨
      step .start b = .refused := by
  simp only [step, first, UInt8.lt_iff_toNat_lt, UInt8.le_iff_toNat_le, ← UInt8.toNat_inj,
    UInt8.reduceToNat]
  grind

section Reading
variable {b : UInt8} {bs : Octets} {c : Char} (accepts : Accepts .start (b :: bs) c)
include accepts

theorem encode_of_accepts_one (small : b.toNat < 0x80) : utf8EncodeChar c = b :: bs := by
  rw [accepts_of_char (first_one small)] at accepts
  obtain ⟨rfl,rfl⟩ := accepts
  rw [encode_one (by omega), UInt8.ofNat_toNat]

theorem encode_of_accepts_two (above : 0xC2 ≤ b.toNat) (below : b.toNat ≤ 0xDF) :
    utf8EncodeChar c = b :: bs := by
  simp only [accepts_of_wait (first_two above below), accepts_inside_last, UInt8.le_iff_toNat_le,
    UInt8.reduceToNat] at accepts
  obtain ⟨b₂,rfl,above₂,below₂,rfl⟩ := accepts
  rw [encode_two (by omega) (by omega)]
  simp only [List.cons.injEq, ← UInt8.toNat_inj, UInt8.toNat_ofNat', and_true]
  omega

theorem encode_of_accepts_three (above : 0xE0 ≤ b.toNat) (below : b.toNat ≤ 0xEF) :
    utf8EncodeChar c = b :: bs := by
  simp only [accepts_of_wait (first_three above below), accepts_inside, Nat.reduceAdd,
    accepts_inside_last, UInt8.le_iff_toNat_le, apply_ite UInt8.toNat, UInt8.reduceToNat] at accepts
  obtain ⟨b₂,_,rfl,above₂,below₂,b₃,rfl,above₃,below₃,rfl⟩ := accepts
  have low : 0x80 ≤ b₂.toNat ∧ (b.toNat = 0xE0 → 0xA0 ≤ b₂.toNat) := by split at above₂ <;> omega
  have high : b₂.toNat ≤ 0xBF ∧ (b.toNat = 0xED → b₂.toNat ≤ 0x9F) := by split at below₂ <;> omega
  rw [encode_three (by omega) (by omega) (by omega)]
  simp only [List.cons.injEq, ← UInt8.toNat_inj, UInt8.toNat_ofNat', and_true]
  omega

theorem encode_of_accepts_four (above : 0xF0 ≤ b.toNat) (below : b.toNat ≤ 0xF4) :
    utf8EncodeChar c = b :: bs := by
  simp only [accepts_of_wait (first_four above below), accepts_inside, Nat.reduceAdd,
    accepts_inside_last, UInt8.le_iff_toNat_le, apply_ite UInt8.toNat, UInt8.reduceToNat] at accepts
  obtain ⟨b₂,_,rfl,above₂,below₂,b₃,_,rfl,above₃,below₃,b₄,rfl,above₄,below₄,rfl⟩ := accepts
  have low : 0x80 ≤ b₂.toNat ∧ (b.toNat = 0xF0 → 0x90 ≤ b₂.toNat) := by split at above₂ <;> omega
  have high : b₂.toNat ≤ 0xBF ∧ (b.toNat = 0xF4 → b₂.toNat ≤ 0x8F) := by split at below₂ <;> omega
  rw [encode_four (by omega) (by omega)]
  simp only [List.cons.injEq, ← UInt8.toNat_inj, UInt8.toNat_ofNat', and_true]
  omega

end Reading

/-- What the machine accepts from the start is the form of the character that it reads. -/
theorem encode_of_accepts {bs : Octets} {c : Char} (accepts : Accepts .start bs c) :
    utf8EncodeChar c = bs := by
  cases bs with
  | nil => exact accepts.elim
  | cons b bs =>
    rcases first_cases b with one | two | three | four | refused
    · exact encode_of_accepts_one accepts one
    · exact encode_of_accepts_two accepts two.1 two.2
    · exact encode_of_accepts_three accepts three.1 three.2
    · exact encode_of_accepts_four accepts four.1 four.2
    · simp only [Accepts, refused] at accepts

theorem toNat_byte {n : Nat} (small : n < 256) : (UInt8.ofNat n).toNat = n := by
  rw [UInt8.toNat_ofNat', Nat.mod_eq_of_lt small]

theorem continuation (m : Nat) :
    0x80 ≤ UInt8.ofNat (m % 64 + 0x80) ∧ UInt8.ofNat (m % 64 + 0x80) ≤ 0xBF := by
  simp only [UInt8.le_iff_toNat_le, toNat_byte (show m % 64 + 0x80 < 256 by omega), UInt8.reduceToNat]
  omega

theorem accepts_one (small : v < 0x80) :
    Accepts .start (utf8EncodeChar (Char.ofNat v)) (Char.ofNat v) := by
  have lead := toNat_byte (show v < 256 by omega)
  have start := first_one (b := UInt8.ofNat v) (by omega)
  rw [encode_one (by omega), accepts_of_char start, lead]
  exact ⟨rfl,rfl⟩

theorem accepts_two (large : 0x80 ≤ v) (small : v < 0x800) :
    Accepts .start (utf8EncodeChar (Char.ofNat v)) (Char.ofNat v) := by
  have lead := toNat_byte (show v / 64 % 32 + 0xC0 < 256 by omega)
  have last := toNat_byte (show v % 64 + 0x80 < 256 by omega)
  have start := first_two (b := UInt8.ofNat (v / 64 % 32 + 0xC0)) (by omega) (by omega)
  rw [encode_two large (by omega), accepts_of_wait start]
  refine accepts_inside_last.mpr ⟨_,rfl,(continuation v).1,(continuation v).2,congrArg Char.ofNat ?_⟩
  omega

theorem accepts_three (large : 0x800 ≤ v) (small : v < 0x10000) (valid : v.isValidChar) :
    Accepts .start (utf8EncodeChar (Char.ofNat v)) (Char.ofNat v) := by
  have lead := toNat_byte (show v / 4096 % 16 + 0xE0 < 256 by omega)
  have second := toNat_byte (show v / 64 % 64 + 0x80 < 256 by omega)
  have last := toNat_byte (show v % 64 + 0x80 < 256 by omega)
  have start := first_three (b := UInt8.ofNat (v / 4096 % 16 + 0xE0)) (by omega) (by omega)
  rw [encode_three large (by omega) valid, accepts_of_wait start]
  refine accepts_inside.mpr ⟨_,_,rfl,?_,?_,accepts_inside_last.mpr ⟨_,rfl,(continuation v).1,
    (continuation v).2,congrArg Char.ofNat ?_⟩⟩
  · rw [UInt8.le_iff_toNat_le, apply_ite UInt8.toNat, lead, second]
    split <;> simp only [UInt8.reduceToNat] <;> omega
  · rw [UInt8.le_iff_toNat_le, apply_ite UInt8.toNat, lead, second]
    split <;> simp only [UInt8.reduceToNat] <;> omega
  · omega

theorem accepts_four (large : 0x10000 ≤ v) (valid : v.isValidChar) :
    Accepts .start (utf8EncodeChar (Char.ofNat v)) (Char.ofNat v) := by
  have lead := toNat_byte (show v / 262144 % 8 + 0xF0 < 256 by omega)
  have second := toNat_byte (show v / 4096 % 64 + 0x80 < 256 by omega)
  have third := toNat_byte (show v / 64 % 64 + 0x80 < 256 by omega)
  have last := toNat_byte (show v % 64 + 0x80 < 256 by omega)
  have start := first_four (b := UInt8.ofNat (v / 262144 % 8 + 0xF0)) (by omega) (by omega)
  rw [encode_four large valid, accepts_of_wait start]
  refine accepts_inside.mpr ⟨_,_,rfl,?_,?_,accepts_inside.mpr ⟨_,_,rfl,(continuation (v / 64)).1,
    (continuation (v / 64)).2,accepts_inside_last.mpr ⟨_,rfl,(continuation v).1,(continuation v).2,
      congrArg Char.ofNat ?_⟩⟩⟩
  · rw [UInt8.le_iff_toNat_le, apply_ite UInt8.toNat, lead, second]
    split <;> simp only [UInt8.reduceToNat] <;> omega
  · rw [UInt8.le_iff_toNat_le, apply_ite UInt8.toNat, lead, second]
    split <;> simp only [UInt8.reduceToNat] <;> omega
  · omega

/-- The machine accepts the form of a character from the start. -/
theorem accepts_encode (c : Char) : Accepts .start (utf8EncodeChar c) c := by
  obtain ⟨v,valid,rfl⟩ : ∃ v : Nat, v.isValidChar ∧ c = Char.ofNat v :=
    ⟨c.toNat,c.valid,c.ofNat_toNat.symm⟩
  rcases Nat.lt_or_ge v 0x80 with one | more
  · exact accepts_one one
  rcases Nat.lt_or_ge v 0x800 with two | more
  · exact accepts_two more two
  rcases Nat.lt_or_ge v 0x10000 with three | more
  · exact accepts_three more three valid
  · exact accepts_four more valid

end Characters

section Reach

variable {s t : State} {p : Octets}

theorem step_wait {b : UInt8} {next : State} (read : step s b = .wait next) :
    ∃ left low high bits, next = .inside left low high bits ∧ low ≤ high := by
  cases s with
  | start =>
    rcases first_cases b with one | two | three | four | refused
    · rw [first_one one] at read
      cases read
    · rw [first_two two.1 two.2] at read
      cases read
      exact ⟨_,_,_,_,rfl,by decide⟩
    · rw [first_three three.1 three.2] at read
      cases read
      exact ⟨_,_,_,_,rfl,by split <;> split <;> first | decide | omega⟩
    · rw [first_four four.1 four.2] at read
      cases read
      exact ⟨_,_,_,_,rfl,by split <;> split <;> first | decide | omega⟩
    · rw [refused] at read
      cases read
  | inside left low high bits =>
    simp only [step, later] at read
    split at read
    · split at read
      · cases read
      · cases read
        exact ⟨_,_,_,_,rfl,by decide⟩
    · cases read

theorem waits_inside (nonempty : p ≠ []) (read : waits s p = some t) :
    ∃ left low high bits, t = .inside left low high bits := by
  induction p generalizing s with
  | nil => exact absurd rfl nonempty
  | cons b p ih =>
    simp only [waits] at read
    split at read
    next next reply =>
      by_cases last : p = []
      · subst last
        cases read
        obtain ⟨left,low,high,bits,same,-⟩ := step_wait reply
        exact ⟨left,low,high,bits,same⟩
      · exact ih last read
    · cases read

theorem accepts_append (tail : Octets) (c : Char) (read : waits s p = some t) :
    Accepts s (p ++ tail) c ↔ Accepts t tail c := by
  induction p generalizing s with
  | nil =>
    cases read
    rfl
  | cons b p ih =>
    simp only [waits] at read
    split at read
    next next reply => exact (accepts_of_wait reply (p ++ tail) c).trans (ih read)
    · cases read

theorem waits_of_accepts {tail : Octets} (unfinished : tail ≠ []) {c : Char}
    (accepts : Accepts s (p ++ tail) c) : ∃ t, waits s p = some t := by
  induction p generalizing s with
  | nil => exact ⟨s,rfl⟩
  | cons b p ih =>
    simp only [List.cons_append, Accepts] at accepts
    split at accepts
    next next reply =>
      simp only [waits, reply]
      exact ih accepts
    · simp [unfinished] at accepts
    · exact accepts.elim

theorem inside_accepts (left : Nat) {low high : UInt8} (room : low ≤ high) (bits : Nat) :
    ∃ tail c, Accepts (.inside left low high bits) tail c := by
  have wide : (0x80 : UInt8) ≤ 0xBF := by decide
  induction left generalizing low high bits with
  | zero => exact ⟨[low],Char.ofNat (bits * 64 + (low.toNat - 0x80)),by simp [Accepts, step, later, room]⟩
  | succ left ih =>
    cases left with
    | zero => exact ⟨[low],_,accepts_inside_last.mpr ⟨low,rfl,by simp,room,rfl⟩⟩
    | succ left =>
      obtain ⟨tail,c,accepts⟩ := ih wide (bits * 64 + (low.toNat - 0x80))
      exact ⟨low :: tail,c,accepts_inside.mpr ⟨low,tail,rfl,by simp,room,accepts⟩⟩

theorem begins_of_step (read : waits .start p = some t) {b : UInt8} (taken : step t b ≠ .refused) :
    Begins (p ++ [b]) := by
  cases reply : step t b with
  | wait next =>
    obtain ⟨left,low,high,bits,rfl,room⟩ := step_wait reply
    obtain ⟨tail,c,accepts⟩ := inside_accepts left room bits
    have whole := (accepts_append (b :: tail) c read).mpr ((accepts_of_wait reply tail c).mpr accepts)
    refine ⟨c,tail,?_⟩
    rw [encode_of_accepts whole, List.append_assoc, List.singleton_append]
  | char c =>
    have whole := (accepts_append [b] c read).mpr ((accepts_of_char reply [] c).mpr ⟨rfl,rfl⟩)
    exact ⟨c,[],by rw [encode_of_accepts whole, List.append_nil]⟩
  | refused => exact absurd reply taken

end Reach

section Strict

theorem decodeFrom_of_wait {s next : State} {b : UInt8} (read : step s b = .wait next) (text : List Char)
    (bs : Octets) : decodeFrom s text (b :: bs) = decodeFrom next text bs := by
  simp only [decodeFrom, read]

theorem decodeFrom_of_char {s : State} {b : UInt8} {c : Char} (read : step s b = .char c) (text : List Char)
    (bs : Octets) : decodeFrom s text (b :: bs) = decodeFrom .start (c :: text) bs := by
  simp only [decodeFrom, read]

theorem decodeFrom_of_accepts {s : State} {bs : Octets} {c : Char} (accepts : Accepts s bs c)
    (text : List Char) (rest : Octets) :
    decodeFrom s text (bs ++ rest) = decodeFrom .start (c :: text) rest := by
  induction bs generalizing s with
  | nil => exact accepts.elim
  | cons b bs ih =>
    cases reply : step s b with
    | wait next =>
      rw [accepts_of_wait reply] at accepts
      exact (decodeFrom_of_wait reply text (bs ++ rest)).trans (ih accepts)
    | char d =>
      rw [accepts_of_char reply] at accepts
      obtain ⟨rfl,rfl⟩ := accepts
      exact decodeFrom_of_char reply text rest
    | refused => simp [Accepts, reply] at accepts

theorem decodeFrom_encode (read text : List Char) : decodeFrom .start read (encode text) = some (read.reverse ++ text) := by
  -- By induction on the text: each character is read back from its form.
  induction text generalizing read with
  | nil => simp [encode, decodeFrom]
  | cons c text ih =>
    have form : encode (c :: text) = utf8EncodeChar c ++ encode text := rfl
    rw [form, decodeFrom_of_accepts (accepts_encode c), ih]
    simp

theorem decode?_octetsOf (text : String) : decode? (octetsOf text) = some text := by
  simp [decode?, octetsOf, decodeFrom_encode]

theorem decodeFrom_eq_some {s : State} {read out : List Char} {bs : Octets} (decoded : decodeFrom s read bs = some out) :
    (s = .start ∧ bs = [] ∧ out = read.reverse) ∨
      ∃ front rest c, bs = front ++ rest ∧ Accepts s front c ∧ decodeFrom .start (c :: read) rest = some out := by
  fun_induction decodeFrom s read bs with
  | case1 read =>
    cases decoded
    exact .inl ⟨rfl,rfl,rfl⟩
  | case2 => cases decoded
  | case3 s read b bs next reply ih =>
    obtain ⟨left,low,high,bits,rfl,-⟩ := step_wait reply
    rcases ih decoded with ⟨finished,-⟩ | ⟨front,rest,c,rfl,accepts,goes⟩
    · cases finished
    · exact .inr ⟨b :: front,rest,c,rfl,(accepts_of_wait reply front c).mpr accepts,goes⟩
  | case4 s read b bs c reply ih => exact .inr ⟨[b],bs,c,rfl,(accepts_of_char reply [] c).mpr ⟨rfl,rfl⟩,decoded⟩
  | case5 => cases decoded

theorem encode_of_decodeFrom {read out : List Char} {bs : Octets} (decoded : decodeFrom .start read bs = some out) :
    ∃ text, out = read.reverse ++ text ∧ bs = encode text := by
  -- By induction on the number of bytes: each character is taken off with its form.
  rcases decodeFrom_eq_some decoded with ⟨-,rfl,rfl⟩ | ⟨front,rest,c,rfl,accepts,goes⟩
  · exact ⟨[],(List.append_nil _).symm,rfl⟩
  · have form := encode_of_accepts accepts
    have shorter : rest.length < (front ++ rest).length := by
      have bytes := List.length_pos_iff.mpr (String.utf8EncodeChar_ne_nil (c := c))
      rw [← form, List.length_append]
      omega
    obtain ⟨text,rfl,rfl⟩ := encode_of_decodeFrom goes
    exact ⟨c :: text,by simp,by rw [← form]; rfl⟩
termination_by bs.length

/-- Strict decoding reads the forms of texts and nothing else. -/
theorem decode?_eq_some_iff {bs : Octets} {text : String} : decode? bs = some text ↔ bs = octetsOf text := by
  constructor
  · intro decoded
    obtain ⟨out,read,rfl⟩ := Option.map_eq_some_iff.mp decoded
    obtain ⟨chars,rfl,rfl⟩ := encode_of_decodeFrom read
    simp [octetsOf]
  · rintro rfl
    exact decode?_octetsOf text

end Strict

section Decoding

def lossyFrom (s : State) (bs : Octets) : List Char :=
  (bs.foldl lossyStep (s,[])).2.reverse ++ lossyEnd (bs.foldl lossyStep (s,[])).1

theorem lossyStep_text (s : State) (text : List Char) (b : UInt8) :
    lossyStep (s,text) b = ((lossyStep (s,[]) b).1,(lossyStep (s,[]) b).2 ++ text) := by
  simp only [lossyStep]
  cases step s b with
  | wait next => rfl
  | char c => rfl
  | refused =>
    cases s with
    | start => rfl
    | inside left low high bits => cases first b <;> rfl

theorem foldl_lossyStep (s : State) (text : List Char) (bs : Octets) :
    bs.foldl lossyStep (s,text) =
      ((bs.foldl lossyStep (s,[])).1,(bs.foldl lossyStep (s,[])).2 ++ text) := by
  induction bs generalizing s text with
  | nil => rfl
  | cons b bs ih =>
    simp only [List.foldl_cons]
    rw [lossyStep_text, ih, ih (lossyStep (s,[]) b).1 (lossyStep (s,[]) b).2, List.append_assoc]

theorem lossyFrom_cons (s : State) (b : UInt8) (bs : Octets) :
    lossyFrom s (b :: bs) = (lossyStep (s,[]) b).2.reverse ++ lossyFrom (lossyStep (s,[]) b).1 bs := by
  simp only [lossyFrom, List.foldl_cons]
  rw [foldl_lossyStep, List.reverse_append, List.append_assoc]

theorem lossyFrom_of_waits {s t : State} {p : Octets} (read : waits s p = some t) (rest : Octets) :
    lossyFrom s (p ++ rest) = lossyFrom t rest := by
  induction p generalizing s with
  | nil =>
    cases read
    rfl
  | cons b p ih =>
    simp only [waits] at read
    split at read
    next next reply =>
      rw [List.cons_append, lossyFrom_cons]
      simp only [lossyStep, reply]
      exact ih read
    · cases read

theorem lossyFrom_of_accepts {s : State} {bs : Octets} {c : Char} (accepts : Accepts s bs c)
    (rest : Octets) : lossyFrom s (bs ++ rest) = c :: lossyFrom .start rest := by
  induction bs generalizing s with
  | nil => exact accepts.elim
  | cons b bs ih =>
    rw [List.cons_append, lossyFrom_cons]
    simp only [Accepts] at accepts
    split at accepts
    next next reply =>
      simp only [lossyStep, reply]
      exact ih accepts
    next d reply =>
      obtain ⟨rfl,rfl⟩ := accepts
      simp only [lossyStep, reply]
      rfl
    · exact accepts.elim

theorem lossyFrom_of_refused {left : Nat} {low high : UInt8} {bits : Nat} {b : UInt8}
    (refused : step (.inside left low high bits) b = .refused) (rest : Octets) :
    lossyFrom (.inside left low high bits) (b :: rest) = replacement :: lossyFrom .start (b :: rest) := by
  rw [lossyFrom_cons, lossyFrom_cons]
  simp only [lossyStep, refused]
  cases reply : first b <;> simp [step, reply]

theorem lossyFrom_of_broken {bad rest : Octets} (broken : Broken bad rest) :
    lossyFrom .start (bad ++ rest) = replacement :: lossyFrom .start rest := by
  by_cases begins : Begins bad
  · obtain ⟨c,tail,same⟩ := begins
    have unfinished : tail ≠ [] := by
      rintro rfl
      rw [List.append_nil] at same
      exact broken.ill c (same ▸ List.prefix_append bad rest)
    obtain ⟨t,read⟩ := waits_of_accepts unfinished (same ▸ accepts_encode c)
    obtain ⟨left,low,high,bits,rfl⟩ := waits_inside broken.nonempty read
    rw [lossyFrom_of_waits read]
    cases rest with
    | nil => rfl
    | cons b rest =>
      refine lossyFrom_of_refused ?_ rest
      by_contra taken
      refine broken.longest (bad ++ [b]) ?_ (by simp) (begins_of_step read taken)
      exact ⟨rest,by simp⟩
  · obtain ⟨b,rfl⟩ := List.length_eq_one_iff.mp (broken.begins.resolve_left begins)
    have refused : step .start b = .refused := by
      by_contra taken
      exact begins (begins_of_step (p := []) rfl taken)
    rw [List.singleton_append, lossyFrom_cons]
    simp only [lossyStep, refused]
    rfl

theorem exists_broken {bs : Octets} (nonempty : bs ≠ []) (ill : ∀ c, ¬utf8EncodeChar c <+: bs) :
    ∃ bad rest, bs = bad ++ rest ∧ Broken bad rest := by
  classical
  obtain ⟨n,isN⟩ : ∃ n, n = Nat.findGreatest (fun n => n = 1 ∨ 0 < n ∧ Begins (bs.take n)) bs.length :=
    ⟨_,rfl⟩
  have one : 1 ≤ bs.length := List.length_pos_iff.mpr nonempty
  have found : n = 1 ∨ 0 < n ∧ Begins (bs.take n) := by
    rw [isN]
    exact Nat.findGreatest_spec (P := fun n => n = 1 ∨ 0 < n ∧ Begins (bs.take n)) one (.inl rfl)
  have within : n ≤ bs.length := isN ▸ Nat.findGreatest_le _
  have size : (bs.take n).length = n := by rw [List.length_take, Nat.min_eq_left within]
  refine ⟨bs.take n,bs.drop n,(List.take_append_drop n bs).symm,?_,?_,?_,?_⟩
  · rw [← List.length_pos_iff, size]
    omega
  · rwa [List.take_append_drop]
  · rw [size]
    exact found.symm.imp_left And.right
  · intro longer initial more begins
    rw [List.take_append_drop] at initial
    rw [size] at more
    have same : bs.take longer.length = longer := (List.prefix_iff_eq_take.mp initial).symm
    refine Nat.findGreatest_is_greatest (isN ▸ more) initial.length_le (.inr ⟨by omega,?_⟩)
    rwa [same]

theorem Lossy.exists (bs : Octets) : ∃ text, Lossy bs text := by
  by_cases empty : bs = []
  · exact ⟨[],empty ▸ .nil⟩
  by_cases ill : ∀ c, ¬utf8EncodeChar c <+: bs
  · obtain ⟨bad,rest,same,broken⟩ := exists_broken empty ill
    have shorter : rest.length < bs.length := by
      have := List.length_pos_iff.mpr broken.nonempty
      rw [same, List.length_append]
      omega
    obtain ⟨text,lossy⟩ := Lossy.exists rest
    exact ⟨replacement :: text,same ▸ .broken broken lossy⟩
  · obtain ⟨c,rest,same⟩ : ∃ c, utf8EncodeChar c <+: bs := by simpa using ill
    have shorter : rest.length < bs.length := by
      have := List.length_pos_iff.mpr (String.utf8EncodeChar_ne_nil (c := c))
      rw [← same, List.length_append]
      omega
    obtain ⟨text,lossy⟩ := Lossy.exists rest
    exact ⟨c :: text,same ▸ .char c lossy⟩
termination_by bs.length

theorem Lossy.eq_lossyFrom {bs : Octets} {text : List Char} (lossy : Lossy bs text) :
    text = lossyFrom .start bs := by
  induction lossy with
  | nil => rfl
  | char c lossy ih => rw [lossyFrom_of_accepts (accepts_encode c), ← ih]
  | broken broken lossy ih => rw [lossyFrom_of_broken broken, ← ih]

/-- Lossy decoding finds the text that the bytes stand for, and there is no other. -/
theorem lossy_iff {bs : Octets} {text : List Char} : Lossy bs text ↔ text = decodeLossy bs := by
  constructor
  · exact Lossy.eq_lossyFrom
  · rintro rfl
    obtain ⟨text,lossy⟩ := Lossy.exists bs
    have same : text = decodeLossy bs := lossy.eq_lossyFrom
    exact same ▸ lossy

example : decodeLossy [0xE2,0x82,0x41,0xC0,0x80] = ['\uFFFD','A','\uFFFD','\uFFFD'] := by
  decide +kernel

end Decoding

end HttpRequest.Utf8
