import HttpRequest.Proofs.Header.Calendar

/-! # Dates that are accepted

Whatever text is accepted, its month and its time of day are within their bounds, and its day is one of
the first to the thirty-first. The day is not compared with the length of the month. So the date of the
resulting time is the one that was read exactly if there is such a date; otherwise it lies in the month
after, as far behind its start as the day lies behind the end of the month that was read.
-/
namespace HttpRequest.Date

def read? (text : String) : Option Reading :=
  (tokens text.toList).foldlM Reading.next? {}

def dateOf (seconds : Nat) : Civil :=
  .ofDay (seconds / 86400)

def Civil.Is (d : Civil) (year month day : Nat) : Prop :=
  d.year = year ∧ d.month = month ∧ d.day = day

structure Reading.Sound (r : Reading) : Prop where
  month : ∀ month ∈ r.month, 1 ≤ month ∧ month ≤ 12
  clock : ∀ clock ∈ r.clock, clock.hour < 24 ∧ clock.minute < 60 ∧ clock.second < 61

theorem sound_start : Reading.Sound {} :=
  ⟨by simp,by simp⟩

theorem month?_bounds {token : List Char} {month : Nat} (named : month? token = some month) :
    1 ≤ month ∧ month ≤ 12 := by
  obtain ⟨place,found,rfl⟩ := Option.map_eq_some_iff.mp named
  obtain ⟨inside,-⟩ := List.findIdx?_eq_some_iff_getElem.mp found
  have all : monthNames.length = 12 := rfl
  omega

theorem clock?_bounds {token : List Char} {clock : Clock} (told : clock? token = some clock) :
    clock.hour < 24 ∧ clock.minute < 60 ∧ clock.second < 61 := by
  unfold clock? at told
  split at told
  · split at told
    · split at told
      next within =>
        cases told
        simpa [and_assoc] using within
      · cases told
    · cases told
  · cases told

theorem Reading.Sound.next? {r after : Reading} (sound : r.Sound) {token : List Char}
    (taken : r.next? token = some after) : after.Sound := by
  unfold Reading.next? at taken
  split at taken
  · obtain ⟨clock,told,rfl⟩ := Option.map_eq_some_iff.mp taken
    refine ⟨sound.month,?_⟩
    rintro _ ⟨⟩
    exact clock?_bounds told
  · split at taken
    next month named =>
      cases taken
      refine ⟨?_,sound.clock⟩
      rintro _ ⟨⟩
      exact month?_bounds named
    · split at taken
      · obtain ⟨n,-,same⟩ := Option.map_eq_some_iff.mp taken
        split at same <;> cases same <;> exact ⟨sound.month,sound.clock⟩
      · cases taken
        exact sound

theorem Reading.Sound.foldlM {r after : Reading} (sound : r.Sound) {tokens : List (List Char)}
    (taken : tokens.foldlM Reading.next? r = some after) : after.Sound := by
  induction tokens generalizing r with
  | nil =>
    cases taken
    exact sound
  | cons token tokens ih =>
    rw [List.foldlM_cons] at taken
    obtain ⟨next,first,rest⟩ := Option.bind_eq_some_iff.mp taken
    exact ih (sound.next? first) rest

theorem parts_of_seconds? {r : Reading} {seconds : Nat} (counted : r.seconds? = some seconds) :
    ∃ day month year clock, r = ⟨some day,some month,some year,some clock⟩ := by
  obtain ⟨day,month,year,clock⟩ := r
  unfold Reading.seconds? at counted
  split at counted
  next day month year clock hday hmonth hyear hclock =>
    cases hday
    cases hmonth
    cases hyear
    cases hclock
    exact ⟨day,month,year,clock,rfl⟩
  · cases counted

/-- An accepted text has all four parts, and its seconds are those of the days before and of the time. -/
theorem parts_of_parse? {text : String} {seconds : Nat} (parsed : parse? text = some seconds) :
    ∃ day month year clock, read? text = some ⟨some day,some month,some year,some clock⟩ ∧
      (1 ≤ month ∧ month ≤ 12) ∧ (clock.hour < 24 ∧ clock.minute < 60 ∧ clock.second < 61) ∧
      (1 ≤ day ∧ day ≤ 31 ∧ 1970 ≤ year) ∧
      seconds = (yearsLength (year - 1970) + monthsLength year (month - 1) + (day - 1)) * 86400 + clock.seconds := by
  obtain ⟨r,read,counted⟩ := Option.bind_eq_some_iff.mp parsed
  obtain ⟨day,month,year,clock,rfl⟩ := parts_of_seconds? counted
  have sound := sound_start.foldlM read
  have months := sound.month month rfl
  rw [seconds?_eq months] at counted
  obtain ⟨within,same⟩ := Option.ite_none_right_eq_some.mp counted
  exact ⟨day,month,year,clock,read,months,sound.clock clock rfl,within,(Option.some.inj same).symm⟩

theorem dateOf_eq {seconds : Nat} (d : Civil) (day : seconds / 86400 = d.daysBefore) : dateOf seconds = d := by
  rw [dateOf, day, Civil.ofDay_daysBefore]

section Days
variable {year month day seconds : Nat}

theorem Civil.Is.day_le {d : Civil} (is : d.Is year month day) : day ≤ monthLength year month := by
  obtain ⟨rfl,rfl,rfl⟩ := is
  exact d.day_bounds.2

theorem seconds_div {clock : Clock} (bounds : clock.hour < 24 ∧ clock.minute < 60) (second : clock.second < 60)
    (days : Nat) : (days * 86400 + clock.seconds) / 86400 = days := by
  unfold Clock.seconds
  omega

theorem dateOf_of_exists (since : 1970 ≤ year) (months : 1 ≤ month ∧ month ≤ 12) (first : 1 ≤ day)
    (counted : seconds / 86400 = yearsLength (year - 1970) + monthsLength year (month - 1) + (day - 1))
    (inside : day ≤ monthLength year month) : (dateOf seconds).Is year month day := by
  rw [dateOf_eq ⟨year,month,day,since,months,first,inside⟩ counted]
  exact ⟨rfl,rfl,rfl⟩

theorem month_lt_of_monthLength_lt (months : 1 ≤ month ∧ month ≤ 12) (beyond : monthLength year month < 31) :
    month < 12 := by
  refine lt_of_le_of_ne months.2 ?_
  rintro rfl
  exact absurd beyond (Nat.lt_irrefl 31)

/-- The days that a month lacks are counted in the month after. -/
theorem dateOf_of_beyond (since : 1970 ≤ year) (months : 1 ≤ month ∧ month ≤ 12) (last : day ≤ 31)
    (counted : seconds / 86400 = yearsLength (year - 1970) + monthsLength year (month - 1) + (day - 1))
    (beyond : monthLength year month < day) :
    (dateOf seconds).Is year (month + 1) (day - monthLength year month) := by
  have short := monthLength_bounds year month
  have long := monthLength_bounds year (month + 1)
  have early := month_lt_of_monthLength_lt months (beyond.trans_le last)
  refine dateOf_of_exists since ⟨by omega,early⟩ (by omega) ?_ (by omega)
  rw [counted, Nat.add_sub_cancel, monthsLength_of_pos year months.1]
  omega

end Days

/-- Whatever text is accepted with a time that is not a leap second: the date of the resulting time is the date that
was read if and only if its month has so many days, and if not, it is the day of the next month that lies as many
days further on. No day after the thirty-first is accepted. -/
theorem dateOf_parse? {text : String} {seconds : Nat} (parsed : parse? text = some seconds) :
    ∃ day month year clock, read? text = some ⟨some day,some month,some year,some clock⟩ ∧ day ≤ 31 ∧
      (clock.second < 60 → ((dateOf seconds).Is year month day ↔ day ≤ monthLength year month) ∧
        (monthLength year month < day → (dateOf seconds).Is year (month + 1) (day - monthLength year month))) := by
  obtain ⟨day,month,year,clock,read,months,time,⟨first,last,since⟩,rfl⟩ := parts_of_parse? parsed
  refine ⟨day,month,year,clock,read,last,fun second => ?_⟩
  have counted := seconds_div ⟨time.1,time.2.1⟩ second (yearsLength (year - 1970) + monthsLength year (month - 1) + (day - 1))
  exact ⟨⟨Civil.Is.day_le,dateOf_of_exists since months first counted⟩,dateOf_of_beyond since months last counted⟩

/-- The last of April comes a day late. -/
theorem april31_dated : parse? "Tue, 31 Apr 2001 12:00:00 GMT" = some 988718400 ∧ (dateOf 988718400).Is 2001 5 1 := by
  have parsed : parse? "Tue, 31 Apr 2001 12:00:00 GMT" = some 988718400 := by decide
  refine ⟨parsed,?_⟩
  obtain ⟨day,month,year,clock,read,-,dated⟩ := dateOf_parse? parsed
  have parts : read? "Tue, 31 Apr 2001 12:00:00 GMT" = some ⟨some 31,some 4,some 2001,some ⟨12,0,0⟩⟩ := by decide
  cases read.symm.trans parts
  exact (dated (by decide)).2 (by decide)

/-- The thirtieth of February is accepted, as the second of March. -/
theorem february30_moved : parse? "Sat, 30 Feb 2019 00:00:00 GMT" = some 1551484800 ∧
    read? "Sat, 30 Feb 2019 00:00:00 GMT" = some ⟨some 30,some 2,some 2019,some ⟨0,0,0⟩⟩ ∧
    ¬(dateOf 1551484800).Is 2019 2 30 := by
  refine ⟨by decide,by decide,?_⟩
  rw [dateOf_eq ⟨2019,3,2,by decide,by decide,by decide⟩ (by decide)]
  rintro ⟨-,month,-⟩
  cases month

end HttpRequest.Date
