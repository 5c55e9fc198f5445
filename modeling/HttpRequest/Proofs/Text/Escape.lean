import HttpRequest.Text.Escape

/-! # Escapes that are refused

A percent sign is in order where two hexadecimal digits follow it. Decoding refuses exactly the texts
in which some percent sign is not, wherever it stands: no escape holds another percent sign, so it
makes no difference where the reading of escapes began. Every other byte stands for itself.
-/
namespace HttpRequest.Escape

def IsHexDigit (b : UInt8) : Prop :=
  (0x30 ≤ b ∧ b ≤ 0x39) ∨ (0x41 ≤ b ∧ b ≤ 0x46) ∨ (0x61 ≤ b ∧ b ≤ 0x66)

def Continues : Octets → Prop
  | x :: y :: _ => IsHexDigit x ∧ IsHexDigit y
  | _ => False

/-- Some percent sign is not followed by two hexadecimal digits. -/
def Malformed (bs : Octets) : Prop :=
  ∃ front back, bs = front ++ 0x25 :: back ∧ ¬Continues back

theorem hexValue?_isSome_iff (b : UInt8) : (hexValue? b).isSome ↔ IsHexDigit b := by
  unfold hexValue? IsHexDigit
  split
  next digit => simp [digit]
  next noDigit =>
    split
    next upper => simp [upper]
    next noUpper =>
      split
      next lower => simp [lower]
      next noLower => simp [noDigit, noUpper, noLower]

theorem IsHexDigit.ne_percent {b : UInt8} (digit : IsHexDigit b) : b ≠ 0x25 := by
  rintro rfl
  revert digit
  unfold IsHexDigit
  decide

theorem not_malformed_nil : ¬Malformed [] := by
  rintro ⟨front,back,split,-⟩
  simp at split

theorem malformed_cons_iff {b : UInt8} {bs : Octets} :
    Malformed (b :: bs) ↔ (b = 0x25 ∧ ¬Continues bs) ∨ Malformed bs := by
  constructor
  · rintro ⟨front,back,split,bad⟩
    cases front with
    | nil =>
      obtain ⟨rfl,rfl⟩ := List.cons.inj split
      exact .inl ⟨rfl,bad⟩
    | cons a front =>
      obtain ⟨-,rfl⟩ := List.cons.inj split
      exact .inr ⟨front,back,rfl,bad⟩
  · rintro (⟨rfl,bad⟩ | ⟨front,back,rfl,bad⟩)
    · exact ⟨[],bs,rfl,bad⟩
    · exact ⟨b :: front,back,rfl,bad⟩

theorem malformed_of_not_continues {bs : Octets} (bad : ¬Continues bs) : Malformed (0x25 :: bs) :=
  malformed_cons_iff.mpr (.inl ⟨rfl,bad⟩)

theorem not_continues_of_short {bs : Octets} (short : ∀ x y rest, bs = x :: y :: rest → False) : ¬Continues bs := by
  match bs with
  | [] => exact id
  | [_] => exact id
  | x :: y :: rest => exact (short x y rest rfl).elim

theorem malformed_cons_of_ne {b : UInt8} {bs : Octets} (other : b ≠ 0x25) :
    Malformed (b :: bs) ↔ Malformed bs := by
  simp [malformed_cons_iff, other]

theorem malformed_escape_iff {x y : UInt8} {rest : Octets} (hx : IsHexDigit x) (hy : IsHexDigit y) :
    Malformed (0x25 :: x :: y :: rest) ↔ Malformed rest := by
  rw [malformed_cons_iff, malformed_cons_of_ne hx.ne_percent, malformed_cons_of_ne hy.ne_percent]
  simp [Continues, hx, hy]

theorem isHexDigit_iff (b : UInt8) : isHexDigit b = true ↔ IsHexDigit b := by
  simp [isHexDigit, IsHexDigit, or_assoc]

theorem wellFormed_iff (bs : Octets) : wellFormed bs = true ↔ ¬Malformed bs := by
  fun_induction wellFormed bs with
  | case1 => simp [not_malformed_nil]
  | case2 x y rest ih =>
    by_cases digits : IsHexDigit x ∧ IsHexDigit y
    · rw [malformed_escape_iff digits.1 digits.2, ← ih]
      simp [isHexDigit_iff, digits]
    · have bad : Malformed (0x25 :: x :: y :: rest) := malformed_of_not_continues digits
      simp only [Bool.and_eq_true, isHexDigit_iff, digits, false_and, bad, not_true]
  | case3 bs short => simp [malformed_of_not_continues (not_continues_of_short short)]
  | case4 b bs other ih => rw [ih, malformed_cons_of_ne other]

theorem decode?_eq_none_iff (bs : Octets) : decode? bs = none ↔ Malformed bs := by
  rw [decode?, ite_eq_right_iff]
  simp [wellFormed_iff]

theorem undoFrom_of_ne {b : UInt8} (other : b ≠ 0x25) (read bs : Octets) :
    undoFrom read (b :: bs) = undoFrom (b :: read) bs := by
  rw [undoFrom.eq_def]
  simp only [other, if_false]

theorem undoFrom_escape {x y c : UInt8} (decoded : escaped? x y = some c) (read rest : Octets) :
    undoFrom read (0x25 :: x :: y :: rest) = undoFrom (c :: read) rest := by
  simp only [undoFrom, if_true, decoded]

theorem undoFrom_append (read more bs : Octets) : undoFrom (read ++ more) bs = more.reverse ++ undoFrom read bs := by
  fun_induction undoFrom read bs with
  | case1 read => simp [undoFrom]
  | case2 read x y rest c decoded ih => exact (undoFrom_escape decoded _ rest).trans ih
  | case3 read x y rest refused ih =>
    simp only [undoFrom, if_true, refused]
    exact ih
  | case4 read short few =>
    rw [undoFrom.eq_def]
    simp
  | case5 read b bs other ih => exact (undoFrom_of_ne other _ bs).trans ih

theorem undo_of_ne {b : UInt8} (other : b ≠ 0x25) (bs : Octets) : undo (b :: bs) = b :: undo bs :=
  (undoFrom_of_ne other [] bs).trans (undoFrom_append [] [b] bs)

theorem undo_escape {x y c : UInt8} (decoded : escaped? x y = some c) (rest : Octets) :
    undo (0x25 :: x :: y :: rest) = c :: undo rest :=
  (undoFrom_escape decoded [] rest).trans (undoFrom_append [] [c] rest)

theorem head_of_decode? {b : UInt8} {bs out : Octets} (other : b ≠ 0x25)
    (decoded : decode? (b :: bs) = some out) : ∃ rest, out = b :: rest := by
  obtain ⟨-,undone⟩ := Option.ite_none_right_eq_some.mp decoded
  cases undone
  exact ⟨undo bs,undo_of_ne other bs⟩

end HttpRequest.Escape
