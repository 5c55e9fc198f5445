import HttpRequest.Proofs.Header.Calendar

/-! # Dates as texts

There are three layouts of a date and a time of day, and each names the day of the week as well. Two write
the year in full and one its last two digits only, which are read as a year from 1970 to 2069. Cut into its
tokens, a text of any of them has one that is read as the day, one as the month, one as the year and one as
the time; what else there is, the day of the week and the zone, is passed over.
-/
namespace HttpRequest.Date

/-- A second of the calendar; there is no leap second among them. -/
structure Moment where
  date : Civil
  clock : Clock
  clock_bounds : clock.hour < 24 ∧ clock.minute < 60 ∧ clock.second < 60

def Moment.seconds (m : Moment) : Nat :=
  m.date.daysBefore * 86400 + m.clock.seconds

inductive Weekday where
  | monday | tuesday | wednesday | thursday | friday | saturday | sunday
deriving DecidableEq, Repr

def Weekday.name : Weekday → List Char
  | .monday => "Monday".toList
  | .tuesday => "Tuesday".toList
  | .wednesday => "Wednesday".toList
  | .thursday => "Thursday".toList
  | .friday => "Friday".toList
  | .saturday => "Saturday".toList
  | .sunday => "Sunday".toList

def Weekday.short (w : Weekday) : List Char :=
  w.name.take 3

def monthShort (month : Nat) : List Char :=
  (["Jan","Feb","Mar","Apr","May","Jun","Jul","Aug","Sep","Oct","Nov","Dec"].getD (month - 1) "").toList

def zone : List Char :=
  "GMT".toList

def digits : Nat → Nat → List Char
  | 0, _ => []
  | width + 1, n => digits width (n / 10) ++ [Nat.digitChar (n % 10)]

def Clock.chars (c : Clock) : List Char :=
  digits 2 c.hour ++ ':' :: digits 2 c.minute ++ ':' :: digits 2 c.second

inductive Layout where
  | imfFixdate
  | rfc850
  | asctime
deriving DecidableEq, Repr

namespace Layout

def chars (w : Weekday) (m : Moment) : Layout → List Char
  | .imfFixdate =>
    w.short ++ ',' :: ' ' :: digits 2 m.date.day ++ ' ' :: monthShort m.date.month ++ ' ' :: digits 4 m.date.year ++
      ' ' :: m.clock.chars ++ ' ' :: zone
  | .rfc850 =>
    w.name ++ ',' :: ' ' :: digits 2 m.date.day ++ '-' :: monthShort m.date.month ++ '-' ::
      digits 2 (m.date.year % 100) ++ ' ' :: m.clock.chars ++ ' ' :: zone
  | .asctime =>
    w.short ++ ' ' :: monthShort m.date.month ++
      ' ' :: (if m.date.day < 10 then ' ' :: digits 1 m.date.day else digits 2 m.date.day) ++
      ' ' :: m.clock.chars ++ ' ' :: digits 4 m.date.year

def text (layout : Layout) (w : Weekday) (m : Moment) : String :=
  String.ofList (layout.chars w m)

/-- The parts of a layout without what divides them. -/
def words (w : Weekday) (m : Moment) : Layout → List (List Char)
  | .imfFixdate =>
    [w.short,digits 2 m.date.day,monthShort m.date.month,digits 4 m.date.year,m.clock.chars,zone]
  | .rfc850 =>
    [w.name,digits 2 m.date.day,monthShort m.date.month,digits 2 (m.date.year % 100),m.clock.chars,zone]
  | .asctime =>
    [w.short,monthShort m.date.month,digits (if m.date.day < 10 then 1 else 2) m.date.day,m.clock.chars,
      digits 4 m.date.year]

/-- The years that a layout can tell apart. -/
def Tells : Layout → Nat → Prop
  | .rfc850, year => 1970 ≤ year ∧ year ≤ 2069
  | _, year => 1970 ≤ year ∧ year ≤ 9999

end Layout

section Digits

theorem length_digits (width n : Nat) : (digits width n).length = width := by
  induction width generalizing n with
  | zero => rfl
  | succ width ih => simp [digits, ih]

theorem exists_digit_of_mem {width n : Nat} {c : Char} (mem : c ∈ digits width n) : ∃ d < 10, c = Nat.digitChar d := by
  induction width generalizing n with
  | zero => simp [digits] at mem
  | succ width ih =>
    rcases List.mem_append.mp mem with before | last
    · exact ih before
    · exact ⟨n % 10,Nat.mod_lt n (by decide),List.mem_singleton.mp last⟩

theorem isDigit_of_mem_digits {width n : Nat} {c : Char} (mem : c ∈ digits width n) : c.isDigit = true := by
  obtain ⟨d,small,rfl⟩ := exists_digit_of_mem mem
  rw [Nat.isDigit_digitChar, decide_eq_true_iff]
  exact small

theorem digit?_digitChar {n : Nat} (small : n < 10) : Number.digit? 10 (Nat.digitChar n) = some n := by
  have all : ∀ n : Fin 10, Number.digit? 10 (Nat.digitChar n) = some n.val := by decide
  exact all ⟨n,small⟩

theorem digitsFrom_append (value : Nat) (front back : List Char) : Number.digitsFrom 10 value (front ++ back) =
    (Number.digitsFrom 10 value front).bind (Number.digitsFrom 10 · back) := by
  induction front generalizing value with
  | nil => rfl
  | cons c front ih =>
    rw [List.cons_append, Number.digitsFrom, Number.digitsFrom]
    cases Number.digit? 10 c with
    | none => rfl
    | some d => exact ih _

theorem digitsFrom_digits (value width n : Nat) : Number.digitsFrom 10 value (digits width n) =
    some (value * Nat.pow 10 width + n % Nat.pow 10 width) := by
  -- By induction on the number of digits: the last digit is the remainder by ten.
  induction width generalizing n with
  | zero => simp [digits, Number.digitsFrom, Nat.mod_one]
  | succ width ih =>
    have small : n % 10 < 10 := by omega
    have split : n % Nat.pow 10 (width + 1) = n % 10 + 10 * (n / 10 % Nat.pow 10 width) := by
      rw [← Nat.mod_mul]
      congr 1
      exact Nat.mul_comm _ _
    simp only [digits, digitsFrom_append, ih, Option.bind_some, Number.digitsFrom, digit?_digitChar small]
    rw [split]
    congr 1
    show _ = value * (Nat.pow 10 width * 10) + _
    rw [← Nat.mul_assoc]
    omega

theorem number?_digits {width n : Nat} (positive : 0 < width) (few : width ≤ 9) (fits : n < Nat.pow 10 width) :
    number? (digits width n) = some n := by
  have read := digitsFrom_digits 0 width n
  rw [Nat.zero_mul, Nat.zero_add, Nat.mod_eq_of_lt fits] at read
  have small : n ≤ Number.max32 := by
    have bound : Nat.pow 10 width ≤ Nat.pow 10 9 := Nat.pow_le_pow_right (by decide) few
    have limit : Nat.pow 10 9 ≤ Number.max32 := by decide
    omega
  obtain ⟨c,rest,written⟩ : ∃ c rest, digits width n = c :: rest := by
    refine List.exists_cons_of_length_pos ?_
    rwa [length_digits]
  have unsigned : c ≠ '+' := by
    rintro rfl
    exact absurd (isDigit_of_mem_digits (written ▸ List.mem_cons_self)) (by decide)
  rw [written] at read ⊢
  unfold number? Number.unsigned?
  split
  next plus => exact absurd (List.cons.inj plus).1 unsigned
  next => simp [Number.digits?, read, small]

end Digits

section Tokens

def separates (c : Char) : Bool :=
  c == ' ' || c == ',' || c == '-'

theorem tokens_append_cons {c : Char} (between : separates c = true) (front back : List Char) :
    tokens (front ++ c :: back) = tokens front ++ tokens back := by
  show List.filter _ (List.splitOnP separates _) = _
  rw [List.splitOnP_append_cons front back between, List.filter_append]
  rfl

theorem tokens_cons {c : Char} (between : separates c = true) (back : List Char) : tokens (c :: back) = tokens back :=
  tokens_append_cons between [] back

theorem tokens_word {word : List Char} (nonempty : word ≠ []) (signs : ∀ c ∈ word, c.isAlphanum = true ∨ c = ':') :
    tokens word = [word] := by
  have whole : ∀ c ∈ word, separates c = false := by
    intro c mem
    rw [Bool.eq_false_iff]
    intro between
    simp only [separates, Bool.or_eq_true, beq_iff_eq] at between
    rcases between with (rfl | rfl) | rfl <;> exact absurd (signs _ mem) (by decide)
  show List.filter _ (List.splitOnP separates _) = _
  rw [List.splitOnP_eq_singleton whole]
  simp [nonempty]

end Tokens

section Readings
variable (r : Reading)

/-- The letters of months, days of the week and the zone are in no number and no time of day. -/
def Letters (word : List Char) : Prop :=
  word ≠ [] ∧ ∀ c ∈ word, c.isAlphanum = true ∧ c.isDigit = false

instance (word : List Char) : Decidable (Letters word) :=
  decidable_of_iff ((!word.isEmpty && word.all fun c => c.isAlphanum && !c.isDigit) = true) (by simp [Letters])

theorem Letters.tokens {word : List Char} (letters : Letters word) : tokens word = [word] :=
  tokens_word letters.1 fun c mem => .inl (letters.2 c mem).1

theorem Letters.no_colon {word : List Char} (letters : Letters word) : word.contains ':' = false := by
  rw [List.contains_eq_mem, decide_eq_false_iff_not]
  intro mem
  exact absurd (letters.2 _ mem).1 (by decide)

theorem letters_monthShort {month : Nat} (bounds : 1 ≤ month ∧ month ≤ 12) : Letters (monthShort month) := by
  have all : ∀ before : Fin 12, Letters (monthShort (before + 1)) := by decide
  obtain ⟨before,rfl⟩ := Nat.exists_eq_add_of_le' bounds.1
  exact all ⟨before,by omega⟩

theorem month?_monthShort {month : Nat} (bounds : 1 ≤ month ∧ month ≤ 12) : month? (monthShort month) = some month := by
  have all : ∀ before : Fin 12, month? (monthShort (before + 1)) = some (before.val + 1) := by decide
  obtain ⟨before,rfl⟩ := Nat.exists_eq_add_of_le' bounds.1
  exact all ⟨before,by omega⟩

theorem next?_monthShort {month : Nat} (bounds : 1 ≤ month ∧ month ≤ 12) :
    r.next? (monthShort month) = some { r with month := some month } := by
  simp only [Reading.next?, (letters_monthShort bounds).no_colon, Bool.false_eq_true, if_false, month?_monthShort bounds]

theorem Letters.next? {word : List Char} (letters : Letters word) (noMonth : month? word = none) :
    r.next? word = some r := by
  have noNumber : word.all Char.isDigit = false := by
    obtain ⟨c,rest,rfl⟩ := List.exists_cons_of_ne_nil letters.1
    simp [(letters.2 c List.mem_cons_self).2]
  simp only [Reading.next?, letters.no_colon, noMonth, noNumber, Bool.false_eq_true, if_false]

theorem month?_digitChar {d : Nat} (small : d < 10) (rest : List Char) : month? (Nat.digitChar d :: rest) = none := by
  have letters : ∀ d : Fin 10, ∀ name ∈ monthNames, name.toList.head? ≠ some (Nat.digitChar d).toLower := by decide
  rw [month?, Option.map_eq_none_iff, List.findIdx?_eq_none_iff]
  intro name mem
  rw [beq_eq_false_iff_ne]
  intro same
  exact letters ⟨d,small⟩ name mem (same ▸ rfl)

theorem next?_digits {width n : Nat} (positive : 0 < width) (few : width ≤ 9) (fits : n < Nat.pow 10 width) :
    r.next? (digits width n) = some (if r.day.isNone && width ≤ 2 then { r with day := some n }
      else { r with year := some (fullYear width n) }) := by
  have noColon : (digits width n).contains ':' = false := by
    rw [List.contains_eq_mem, decide_eq_false_iff_not]
    intro mem
    exact absurd (isDigit_of_mem_digits mem) (by decide)
  have number : (digits width n).all Char.isDigit = true := List.all_eq_true.mpr fun c mem => isDigit_of_mem_digits mem
  have noMonth : month? (digits width n) = none := by
    obtain ⟨c,rest,written⟩ : ∃ c rest, digits width n = c :: rest :=
      List.exists_cons_of_length_pos (by rwa [length_digits])
    obtain ⟨d,small,rfl⟩ := exists_digit_of_mem (written ▸ List.mem_cons_self)
    rw [written]
    exact month?_digitChar small rest
  simp only [Reading.next?, noColon, noMonth, number, number?_digits positive few fits, length_digits, Bool.false_eq_true,
    if_false, if_true, Option.map_some]

theorem next?_day {width n : Nat} (positive : 0 < width) (short : width ≤ 2) (fits : n < Nat.pow 10 width)
    (first : r.day = none) : r.next? (digits width n) = some { r with day := some n } := by
  simp [next?_digits r positive (by omega) fits, first, short]

theorem next?_year {width n : Nat} (positive : 0 < width) (few : width ≤ 9) (fits : n < Nat.pow 10 width)
    (second : r.day ≠ none) : r.next? (digits width n) = some { r with year := some (fullYear width n) } := by
  simp [next?_digits r positive few fits, second]

theorem clock?_chars {c : Clock} (bounds : c.hour < 24 ∧ c.minute < 60 ∧ c.second < 60) : clock? c.chars = some c := by
  have noColon (n : Nat) : ':' ∉ digits 2 n := fun mem => absurd (isDigit_of_mem_digits mem) (by decide)
  have cut : c.chars.splitOn ':' = [digits 2 c.hour,digits 2 c.minute,digits 2 c.second] := by
    rw [Clock.chars, List.splitOn_append_cons_self, List.splitOn_append_cons_self, List.splitOn_eq_singleton (noColon _),
      List.splitOn_eq_singleton (noColon _), List.splitOn_eq_singleton (noColon _)]
    rfl
  have read {n : Nat} (small : n < 60) : number? (digits 2 n) = some n :=
    number?_digits (by decide) (by decide) (by show n < 100; omega)
  have second : c.second < 61 := by omega
  simp [clock?, cut, read bounds.2.1, read bounds.2.2, read (bounds.1.trans (by decide : 24 < 60)), bounds.1, bounds.2.1, second]

theorem next?_clock {c : Clock} (bounds : c.hour < 24 ∧ c.minute < 60 ∧ c.second < 60) :
    r.next? c.chars = some { r with clock := some c } := by
  have colon : c.chars.contains ':' = true := by simp [Clock.chars]
  simp only [Reading.next?, colon, if_true, clock?_chars bounds, Option.map_some]

theorem tokens_digits {width : Nat} (positive : 0 < width) (n : Nat) : tokens (digits width n) = [digits width n] := by
  refine tokens_word ?_ fun c mem => .inl (by simp [Char.isAlphanum, isDigit_of_mem_digits mem])
  rwa [← List.length_pos_iff, length_digits]

theorem tokens_clock (c : Clock) : tokens c.chars = [c.chars] := by
  have signs {n : Nat} : ∀ d ∈ digits 2 n, d.isAlphanum = true ∨ d = ':' := fun d mem =>
    .inl (by simp [Char.isAlphanum, isDigit_of_mem_digits mem])
  refine tokens_word (by simp [Clock.chars]) ?_
  simp only [Clock.chars, List.forall_mem_append, List.forall_mem_cons]
  exact ⟨⟨signs,.inr trivial,signs⟩,.inr trivial,signs⟩

end Readings

section Layouts
variable {w : Weekday} {m : Moment}

theorem letters_weekday (w : Weekday) :
    (Letters w.name ∧ month? w.name = none) ∧ Letters w.short ∧ month? w.short = none := by
  cases w <;> decide

theorem letters_zone : Letters zone ∧ month? zone = none := by
  decide

theorem tokens_chars (layout : Layout) (w : Weekday) (m : Moment) : tokens (layout.chars w m) = layout.words w m := by
  have space := tokens_append_cons (c := ' ') rfl
  have comma := tokens_append_cons (c := ',') rfl
  have hyphen := tokens_append_cons (c := '-') rfl
  have spaces := tokens_cons (c := ' ') rfl
  have ⟨⟨name,_⟩,short,_⟩ := letters_weekday w
  have month := letters_monthShort m.date.month_bounds
  have number {width : Nat} (positive : 0 < width) := tokens_digits positive
  cases layout with
  | imfFixdate =>
    simp only [Layout.chars, Layout.words, space, spaces, comma, short.tokens, month.tokens, letters_zone.1.tokens,
      tokens_clock, number (show 0 < 2 by decide), number (show 0 < 4 by decide), List.cons_append, List.nil_append]
  | rfc850 =>
    simp only [Layout.chars, Layout.words, space, spaces, comma, hyphen, name.tokens, month.tokens, letters_zone.1.tokens,
      tokens_clock, number (show 0 < 2 by decide), List.cons_append, List.nil_append]
  | asctime =>
    simp only [Layout.chars, Layout.words, space, short.tokens, month.tokens, tokens_clock,
      number (show 0 < 4 by decide)]
    split <;> simp only [spaces, number (show 0 < 1 by decide), number (show 0 < 2 by decide), List.cons_append,
      List.nil_append]

def Moment.reading (m : Moment) : Reading :=
  ⟨some m.date.day,some m.date.month,some m.date.year,some m.clock⟩

/-- The first number is the day and the second the year, wherever the month stands. -/
theorem foldlM_words {layout : Layout} {m : Moment} (w : Weekday) (told : layout.Tells m.date.year) :
    (layout.words w m).foldlM Reading.next? {} = some m.reading := by
  have ⟨⟨name,noMonth⟩,short,noMonth'⟩ := letters_weekday w
  have month (r : Reading) := next?_monthShort r m.date.month_bounds
  have clock (r : Reading) := next?_clock r m.clock_bounds
  have few : m.date.day ≤ 31 := m.date.day_bounds.2.trans (monthLength_bounds _ _).2
  have day {r : Reading} := next?_day r (show 0 < 2 by decide) (by decide) (show m.date.day < 100 by omega)
  cases layout with
  | imfFixdate =>
    have fits : m.date.year < Nat.pow 10 4 := Nat.lt_succ_of_le told.2
    have year {r : Reading} := next?_year r (show 0 < 4 by decide) (by decide) fits
    simp [Layout.words, short.next? _ noMonth', day, month, year, clock, letters_zone.1.next? _ letters_zone.2, fullYear,
      Moment.reading]
  | rfc850 =>
    have fits : m.date.year % 100 < Nat.pow 10 2 := Nat.mod_lt _ (by decide)
    have year {r : Reading} := next?_year r (show 0 < 2 by decide) (by decide) fits
    have full : fullYear 2 (m.date.year % 100) = m.date.year := by
      obtain ⟨since,last⟩ := told
      simp only [fullYear, beq_self_eq_true, if_true]
      split <;> omega
    simp [Layout.words, name.next? _ noMonth, day, month, year, clock, letters_zone.1.next? _ letters_zone.2, full,
      Moment.reading]
  | asctime =>
    have fits : m.date.year < Nat.pow 10 4 := Nat.lt_succ_of_le told.2
    have year {r : Reading} := next?_year r (show 0 < 4 by decide) (by decide) fits
    by_cases one : m.date.day < 10
    · have day' {r : Reading} := next?_day r (show 0 < 1 by decide) (by decide) (show m.date.day < Nat.pow 10 1 from one)
      simp [Layout.words, one, short.next? _ noMonth', month, day', clock, year, fullYear, Moment.reading]
    · simp [Layout.words, one, short.next? _ noMonth', month, day, clock, year, fullYear, Moment.reading]

/-- In whatever layout a second is written, and whatever day of the week is named: the text is read as the number of
that second, so the layouts agree. -/
theorem parse?_layout (layout : Layout) (w : Weekday) (m : Moment) (told : layout.Tells m.date.year) :
    parse? (layout.text w m) = some m.seconds := by
  have day := m.date.day_bounds
  have short := monthLength_bounds m.date.year m.date.month
  rw [parse?, Layout.text, String.toList_ofList, tokens_chars, foldlM_words w told, Option.bind_some, Moment.reading,
    seconds?_eq m.date.month_bounds, if_pos ⟨day.1,by omega,m.date.since⟩]
  rfl

def leapDay : Moment :=
  ⟨⟨2000,2,29,by decide,by decide,by decide⟩,⟨23,59,59⟩,by decide⟩

/-- The last second of a leap day that a century has, in the layout with two digits. -/
theorem parse?_leapDay : Layout.rfc850.Tells 2000 ∧
    parse? "Tuesday, 29-Feb-00 23:59:59 GMT" = some 951868799 := by
  have told : Layout.rfc850.Tells 2000 := ⟨by decide,by decide⟩
  have written : Layout.rfc850.text .tuesday leapDay = "Tuesday, 29-Feb-00 23:59:59 GMT" := by decide
  rw [← written]
  exact ⟨told,parse?_layout .rfc850 .tuesday leapDay told⟩

end Layouts

end HttpRequest.Date
