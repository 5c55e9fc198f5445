import HttpRequest.Header.Date
import Mathlib.Order.Monotone.Basic

/-! # The calendar

The days from the first of January 1970 on are numbered in two ways. One counts the days of all years
and months before a date, with the leap years among them; the other goes from each date to the next.
They give the same numbers, so every number belongs to exactly one date. The count that reckons with years
that begin in March agrees with them, and it goes on counting where a day lies beyond the end of its month.
-/
namespace HttpRequest.Date

/-- Every fourth year but not every hundredth, and yet every four hundredth. -/
def IsLeap (year : Nat) : Prop :=
  4 ∣ year ∧ (¬100 ∣ year ∨ 400 ∣ year)

instance (year : Nat) : Decidable (IsLeap year) :=
  inferInstanceAs (Decidable (_ ∧ _))

def monthLength (year month : Nat) : Nat :=
  if month = 2 then (if IsLeap year then 29 else 28)
  else if month = 4 ∨ month = 6 ∨ month = 9 ∨ month = 11 then 30
  else 31

/-- The days of as many months of a year from January on. -/
def monthsLength (year : Nat) : Nat → Nat
  | 0 => 0
  | months + 1 => monthsLength year months + monthLength year (months + 1)

def yearLength (year : Nat) : Nat :=
  monthsLength year 12

/-- The days of as many years from 1970 on. -/
def yearsLength : Nat → Nat
  | 0 => 0
  | years + 1 => yearsLength years + yearLength (1970 + years)

/-- A date of the proleptic Gregorian calendar, from 1970 on. -/
@[ext]
structure Civil where
  year : Nat
  month : Nat
  day : Nat
  since : 1970 ≤ year
  month_bounds : 1 ≤ month ∧ month ≤ 12
  day_bounds : 1 ≤ day ∧ day ≤ monthLength year month
deriving DecidableEq, Repr

def Civil.daysBefore (d : Civil) : Nat :=
  yearsLength (d.year - 1970) + monthsLength d.year (d.month - 1) + (d.day - 1)

section Lengths

theorem monthLength_bounds (year month : Nat) : 28 ≤ monthLength year month ∧ monthLength year month ≤ 31 := by
  unfold monthLength
  split_ifs <;> simp

theorem yearLength_eq (year : Nat) : yearLength year = if IsLeap year then 366 else 365 := by
  by_cases leap : IsLeap year <;> simp [yearLength, monthsLength, monthLength, leap]

theorem strictMono_monthsLength (year : Nat) : StrictMono (monthsLength year) :=
  strictMono_nat_of_lt_succ fun months => by
    have long := monthLength_bounds year (months + 1)
    rw [monthsLength]
    omega

theorem strictMono_yearsLength : StrictMono yearsLength :=
  strictMono_nat_of_lt_succ fun years => by
    have long : monthsLength (1970 + years) 0 < yearLength (1970 + years) :=
      strictMono_monthsLength _ (by decide)
    rw [yearsLength]
    omega

theorem monthsLength_of_pos (year : Nat) {month : Nat} (pos : 1 ≤ month) :
    monthsLength year month = monthsLength year (month - 1) + monthLength year month := by
  obtain ⟨before,rfl⟩ := Nat.exists_eq_add_of_le' pos
  rfl

theorem yearsLength_succ {year : Nat} (since : 1970 ≤ year) :
    yearsLength (year + 1 - 1970) = yearsLength (year - 1970) + yearLength year := by
  obtain ⟨years,rfl⟩ := Nat.exists_eq_add_of_le since
  rw [Nat.add_assoc, Nat.add_sub_cancel_left, Nat.add_sub_cancel_left]
  rfl

theorem span_unique {start : Nat → Nat} (rising : StrictMono start) {a b m n : Nat} (same : start a + m = start b + n)
    (first : start a + m < start (a + 1)) (second : start b + n < start (b + 1)) : a = b := by
  have below : a < b + 1 := rising.lt_iff_lt.mp (by omega)
  have above : b < a + 1 := rising.lt_iff_lt.mp (by omega)
  omega

end Lengths

section Reckoning

def leapsUntil (year : Int) : Int :=
  year / 4 - year / 100 + year / 400

theorem leapsUntil_eq (year : Nat) :
    leapsUntil year = leapsUntil ((year : Int) - 1) + if IsLeap year then 1 else 0 := by
  unfold leapsUntil
  by_cases fourth : 4 ∣ year
  · by_cases hundredth : 100 ∣ year
    · by_cases rare : 400 ∣ year <;> simp only [IsLeap, fourth, hundredth, rare] <;> simp <;> omega
    · simp only [IsLeap, fourth, hundredth]
      simp
      omega
  · simp only [IsLeap, fourth]
    simp
    omega

theorem yearsLength_eq {year : Nat} (since : 1970 ≤ year) :
    (yearsLength (year - 1970) : Int) = ((year : Int) - 1) * 365 + leapsUntil ((year : Int) - 1) - 719162 := by
  obtain ⟨years,rfl⟩ := Nat.exists_eq_add_of_le since
  rw [Nat.add_sub_cancel_left]
  induction years with
  | zero => rfl
  | succ years ih =>
    have counted := ih (by omega)
    have length := yearLength_eq (1970 + years)
    have leaps := leapsUntil_eq (1970 + years)
    have next : ((1970 + (years + 1) : Nat) : Int) - 1 = (1970 + years : Nat) := by omega
    rw [yearsLength, next]
    split_ifs at length leaps <;> omega

/-- From March on the months have lengths that one fraction counts. -/
theorem monthsLength_eq (year : Nat) {month : Nat} (bounds : 1 ≤ month ∧ month ≤ 12) :
    monthsLength year (month - 1) =
      if month ≤ 2 then 31 * (month - 1) else (153 * (month - 3) + 2) / 5 + (if IsLeap year then 60 else 59) := by
  have all : month = 1 ∨ month = 2 ∨ month = 3 ∨ month = 4 ∨ month = 5 ∨ month = 6 ∨ month = 7 ∨ month = 8 ∨
      month = 9 ∨ month = 10 ∨ month = 11 ∨ month = 12 := by omega
  by_cases leap : IsLeap year <;>
    rcases all with rfl | rfl | rfl | rfl | rfl | rfl | rfl | rfl | rfl | rfl | rfl | rfl <;>
    simp [monthsLength, monthLength, leap]

/-- Whole spans of four hundred years and the years of the last one are reckoned as all years are. -/
theorem eraDays_eq (year : Int) : year.fdiv 400 * 146097 +
    ((year - year.fdiv 400 * 400) * 365 + (year - year.fdiv 400 * 400) / 4 - (year - year.fdiv 400 * 400) / 100) =
      year * 365 + leapsUntil year := by
  rw [Int.fdiv_eq_ediv_of_nonneg year (by decide)]
  unfold leapsUntil
  omega

/-- Years that begin in March are reckoned with rightly, and days beyond the end of a month are counted on. -/
theorem daysFromCivil_eq {year month : Nat} (since : 1970 ≤ year) (bounds : 1 ≤ month ∧ month ≤ 12) (day : Nat) :
    daysFromCivil year month day = yearsLength (year - 1970) + monthsLength year (month - 1) + (day : Int) - 1 := by
  have months := monthsLength_eq year bounds
  rw [yearsLength_eq since]
  unfold daysFromCivil
  by_cases early : month ≤ 2
  · have era := eraDays_eq ((year : Int) - 1)
    rw [if_pos early] at months
    simp only [early, if_true, show ¬month > 2 by omega, if_false]
    omega
  · have era := eraDays_eq year
    have leaps := leapsUntil_eq year
    rw [if_neg early] at months
    simp only [early, if_false, show month > 2 by omega, if_true]
    split_ifs at months leaps <;> omega

end Reckoning

namespace Civil

def epoch : Civil :=
  ⟨1970,1,1,by decide,by decide,by decide⟩

def tomorrow (d : Civil) : Civil :=
  have nonempty (year month : Nat) : 1 ≤ 1 ∧ 1 ≤ monthLength year month :=
    ⟨by decide,by have := monthLength_bounds year month; omega⟩
  if inside : d.day < monthLength d.year d.month then
    { d with day := d.day + 1, day_bounds := ⟨by omega,inside⟩ }
  else if more : d.month < 12 then
    { d with month := d.month + 1, day := 1, month_bounds := ⟨by omega,more⟩, day_bounds := nonempty _ _ }
  else
    ⟨d.year + 1,1,1,d.since.step,by decide,nonempty _ _⟩

def ofDay : Nat → Civil
  | 0 => epoch
  | days + 1 => (ofDay days).tomorrow

theorem daysBefore_tomorrow (d : Civil) : d.tomorrow.daysBefore = d.daysBefore + 1 := by
  have known := d.day_bounds
  have months := monthsLength_of_pos d.year d.month_bounds.1
  unfold tomorrow
  split
  · simp only [daysBefore]
    omega
  · split
    · simp only [daysBefore, Nat.add_sub_cancel]
      omega
    · have last : d.month = 12 := by have := d.month_bounds; omega
      have years := yearsLength_succ d.since
      rw [yearLength, ← last] at years
      simp only [daysBefore, Nat.sub_self, monthsLength]
      omega

theorem daysBefore_ofDay (days : Nat) : (ofDay days).daysBefore = days := by
  induction days with
  | zero => rfl
  | succ days ih => rw [ofDay, daysBefore_tomorrow, ih]

theorem within_month (d : Civil) :
    monthsLength d.year (d.month - 1) + (d.day - 1) < monthsLength d.year (d.month - 1 + 1) := by
  have known := d.day_bounds
  have months := monthsLength_of_pos d.year d.month_bounds.1
  rw [Nat.sub_add_cancel d.month_bounds.1]
  omega

theorem within_year (d : Civil) : monthsLength d.year (d.month - 1) + (d.day - 1) < yearLength d.year := by
  refine d.within_month.trans_le ?_
  rw [Nat.sub_add_cancel d.month_bounds.1]
  exact (strictMono_monthsLength d.year).monotone d.month_bounds.2

theorem daysBefore_injective : Function.Injective daysBefore := by
  intro d e same
  unfold daysBefore at same
  have span (d : Civil) : yearsLength (d.year - 1970) + (monthsLength d.year (d.month - 1) + (d.day - 1)) <
      yearsLength (d.year - 1970 + 1) := by
    rw [← Nat.sub_add_comm d.since, yearsLength_succ d.since]
    exact Nat.add_lt_add_left d.within_year _
  have years : d.year - 1970 = e.year - 1970 := span_unique strictMono_yearsLength (by omega) (span d) (span e)
  have year : d.year = e.year := by have := d.since; have := e.since; omega
  have month' := e.within_month
  rw [years, ← year] at same
  rw [← year] at month'
  have months : d.month - 1 = e.month - 1 :=
    span_unique (strictMono_monthsLength d.year) (by omega) d.within_month month'
  have month : d.month = e.month := by have := d.month_bounds; have := e.month_bounds; omega
  rw [months] at same
  have day : d.day = e.day := by have := d.day_bounds; have := e.day_bounds; omega
  exact Civil.ext year month day

theorem ofDay_daysBefore (d : Civil) : ofDay d.daysBefore = d :=
  daysBefore_injective (daysBefore_ofDay _)

end Civil

def Clock.seconds (c : Clock) : Nat :=
  c.hour * 3600 + c.minute * 60 + c.second

theorem seconds?_eq {year month : Nat} (bounds : 1 ≤ month ∧ month ≤ 12) (day : Nat) (clock : Clock) :
    Reading.seconds? ⟨some day,some month,some year,some clock⟩ =
      if 1 ≤ day ∧ day ≤ 31 ∧ 1970 ≤ year then
        some ((yearsLength (year - 1970) + monthsLength year (month - 1) + (day - 1)) * 86400 + clock.seconds)
      else none := by
  unfold Reading.seconds?
  by_cases valid : 1 ≤ day ∧ day ≤ 31 ∧ 1970 ≤ year
  · have days := daysFromCivil_eq valid.2.2 bounds day
    have refused : ¬(day < 1 || 31 < day || year < 1970) = true := by simp; omega
    simp only [refused, Bool.false_eq_true, if_false, valid, and_self, if_true, days]
    rw [if_neg (by omega)]
    simp only [Clock.seconds, Option.some.injEq]
    omega
  · have refused : (day < 1 || 31 < day || year < 1970) = true := by simp; omega
    simp only [refused, if_true, if_neg valid]

end HttpRequest.Date
