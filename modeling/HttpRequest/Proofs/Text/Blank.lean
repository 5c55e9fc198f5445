import HttpRequest.Text.Blank
import Mathlib.Data.List.DropRight

/-! # Texts between blanks

What trimming leaves of a text is the one part of it that neither begins nor ends with a blank and has
nothing but blanks around it. A sign that is no blank stays where it is, so a text with such a sign in
it is trimmed on the far side of either half alone.
-/
namespace HttpRequest

def Tight (text : List Char) : Prop :=
  (∀ c ∈ text.head?, isBlank c = false) ∧ ∀ c ∈ text.getLast?, isBlank c = false

def Blank (text : List Char) : Prop :=
  ∀ c ∈ text, isBlank c = true

/-- The outer text is the inner one with any blanks around it. -/
def Padded (text outer : List Char) : Prop :=
  Tight text ∧ ∃ before after, Blank before ∧ Blank after ∧ outer = before ++ text ++ after

section Trimming
variable {text outer left right : List Char} {sign : Char}

theorem trim_eq (outer : List Char) : trim outer = (outer.dropWhile isBlank).rdropWhile isBlank :=
  rfl

theorem Blank.nil : Blank [] :=
  List.forall_mem_nil _

theorem Blank.not_mem (blank : Blank text) (mark : isBlank sign = false) : sign ∉ text :=
  fun mem => Bool.false_ne_true (mark.symm.trans (blank sign mem))

theorem Padded.not_mem (h : Padded text outer) (mark : isBlank sign = false) (outside : sign ∉ text) :
    sign ∉ outer := by
  obtain ⟨-,before,after,blankBefore,blankAfter,rfl⟩ := h
  simp [outside, blankBefore.not_mem mark, blankAfter.not_mem mark]

theorem rdropWhile_of_tight (tight : Tight text) : text.rdropWhile isBlank = text := by
  refine List.rdropWhile_eq_self_iff.mpr fun filled blank => ?_
  have last := tight.2 _ (List.getLast?_eq_some_getLast filled)
  exact Bool.false_ne_true (last.symm.trans blank)

theorem dropWhile_of_blank (blank : Blank text) : text.dropWhile isBlank = [] :=
  List.dropWhile_eq_nil_iff.mpr blank

theorem trim_of_blank (blank : Blank text) : trim text = [] := by
  rw [trim_eq, dropWhile_of_blank blank, List.rdropWhile_nil]

theorem trim_blank_append (blank : Blank left) (right : List Char) : trim (left ++ right) = trim right := by
  rw [trim_eq, List.dropWhile_append_of_pos blank, trim_eq]

theorem trim_append_of_blank (blank : Blank right) (left : List Char) : trim (left ++ right) = trim left := by
  have passed : ∀ c ∈ right.reverse, isBlank c = true := fun c mem => blank c (List.mem_reverse.mp mem)
  have trailing (xs : List Char) : (xs ++ right).rdropWhile isBlank = xs.rdropWhile isBlank := by
    simp only [List.rdropWhile, List.reverse_append, List.dropWhile_append_of_pos passed]
  rw [trim_eq, trim_eq, List.dropWhile_append]
  split
  next gone => rw [List.isEmpty_iff.mp gone, dropWhile_of_blank blank]
  next => exact trailing _

theorem trim_of_tight (tight : Tight text) : trim text = text := by
  cases text with
  | nil => rfl
  | cons c rest =>
    have kept : (c :: rest).dropWhile isBlank = c :: rest :=
      List.dropWhile_cons_of_neg (by simp [tight.1 c rfl])
    rw [trim_eq, kept, rdropWhile_of_tight tight]

theorem trim_of_padded (h : Padded text outer) : trim outer = text := by
  obtain ⟨tight,before,after,blankBefore,blankAfter,rfl⟩ := h
  rw [trim_append_of_blank blankAfter, trim_blank_append blankBefore, trim_of_tight tight]

@[simp]
theorem trim_dropWhile (outer : List Char) : trim (outer.dropWhile isBlank) = trim outer := by
  rw [trim_eq, List.dropWhile_idempotent, trim_eq]

@[simp]
theorem trim_rdropWhile (outer : List Char) : trim (outer.rdropWhile isBlank) = trim outer := by
  have blank : Blank (outer.rtakeWhile isBlank) := fun _ mem => List.mem_rtakeWhile_imp mem
  rw [← trim_append_of_blank blank, List.rdropWhile_append_rtakeWhile]

theorem tight_trim (outer : List Char) : Tight (trim outer) := by
  constructor
  · intro c first
    obtain ⟨rest,whole⟩ := List.rdropWhile_prefix isBlank (outer.dropWhile isBlank)
    have leading : (outer.dropWhile isBlank).head? = some c := by
      rw [← whole, List.head?_append, ← trim_eq, Option.mem_def.mp first, Option.some_or]
    have dropped := List.head?_dropWhile_not isBlank outer
    rwa [leading] at dropped
  · intro c last
    obtain ⟨filled,rfl⟩ := List.mem_getLast?_eq_getLast last
    exact Bool.eq_false_iff.mpr (List.rdropWhile_last_not isBlank (outer.dropWhile isBlank) filled)

theorem padded_trim (outer : List Char) : Padded (trim outer) outer := by
  refine ⟨tight_trim outer,outer.takeWhile isBlank,(outer.dropWhile isBlank).rtakeWhile isBlank,
    fun _ mem => List.mem_takeWhile_imp mem,fun _ mem => List.mem_rtakeWhile_imp mem,?_⟩
  rw [trim_eq, List.append_assoc, List.rdropWhile_append_rtakeWhile, List.takeWhile_append_dropWhile]

theorem trim_eq_iff : trim outer = text ↔ Padded text outer := by
  constructor
  · rintro rfl
    exact padded_trim outer
  · exact trim_of_padded

theorem dropWhile_append_cons (mark : isBlank sign = false) (left right : List Char) :
    (left ++ sign :: right).dropWhile isBlank = left.dropWhile isBlank ++ sign :: right := by
  have kept : (sign :: right).dropWhile isBlank = sign :: right :=
    List.dropWhile_cons_of_neg (by simp [mark])
  rw [List.dropWhile_append]
  split
  next gone => rw [kept, List.isEmpty_iff.mp gone, List.nil_append]
  next => rfl

theorem rdropWhile_append_cons (mark : isBlank sign = false) (left right : List Char) :
    (left ++ sign :: right).rdropWhile isBlank = left ++ sign :: right.rdropWhile isBlank := by
  have turned := dropWhile_append_cons mark right.reverse left.reverse
  simp only [List.rdropWhile, List.reverse_append, List.reverse_cons, List.append_assoc,
    List.singleton_append, turned, List.reverse_reverse]

theorem trim_eq_nil_iff : trim outer = [] ↔ Blank outer := by
  constructor
  · intro gone
    obtain ⟨-,before,after,blankBefore,blankAfter,rfl⟩ := trim_eq_iff.mp gone
    rw [List.append_nil]
    exact List.forall_mem_append.mpr ⟨blankBefore,blankAfter⟩
  · exact trim_of_blank

theorem trim_eq_self_iff : trim text = text ↔ Tight text := by
  constructor
  · intro same
    rw [← same]
    exact tight_trim text
  · exact trim_of_tight

instance : DecidablePred Tight :=
  fun _ => decidable_of_iff _ trim_eq_self_iff

instance : DecidablePred Blank :=
  fun _ => decidable_of_iff _ trim_eq_nil_iff

instance : Decidable (Padded text outer) :=
  decidable_of_iff _ trim_eq_iff

theorem trim_append_cons (mark : isBlank sign = false) (left right : List Char) :
    trim (left ++ sign :: right) =
      left.dropWhile isBlank ++ sign :: right.rdropWhile isBlank := by
  rw [trim_eq, dropWhile_append_cons mark, rdropWhile_append_cons mark]

end Trimming

end HttpRequest
