import HttpRequest.Number.Integer
import HttpRequest.Text.Split

/-! # Dates

A date is a list of tokens parted by spaces, commas and hyphens. A token with a colon is the time of
day, a token that begins with the first three letters of a month is the month, the first number of
at most two digits is the day, and any other number is the year. All else is skipped, so the three
layouts of dates in headers are read by the same rule. The result counts seconds since the start of
1970 in the proleptic Gregorian calendar.
-/
namespace HttpRequest.Date

def monthNames : List String :=
  ["jan", "feb", "mar", "apr", "may", "jun", "jul", "aug", "sep", "oct", "nov", "dec"]

def month? (token : List Char) : Option Nat :=
  (monthNames.findIdx? fun name => (token.take 3).map Char.toLower == name.toList).map (· + 1)

structure Clock where
  hour : Nat
  minute : Nat
  second : Nat
deriving DecidableEq, Repr

def number? (cs : List Char) : Option Nat :=
  Number.unsigned? 10 Number.max32 cs

/-- The first three numbers parted by colons, within the limits of a day; a leap second is allowed. -/
def clock? (token : List Char) : Option Clock :=
  match token.splitOn ':' with
  | h :: m :: s :: _ =>
    match number? h, number? m, number? s with
    | some hour, some minute, some second =>
      if hour < 24 && minute < 60 && second < 61 then some ⟨hour, minute, second⟩ else none
    | _, _, _ => none
  | _ => none

structure Reading where
  day : Option Nat := none
  month : Option Nat := none
  year : Option Nat := none
  clock : Option Clock := none
deriving DecidableEq, Repr

def fullYear (digits : Nat) (n : Nat) : Nat :=
  if digits == 2 then (if n < 70 then 2000 + n else 1900 + n) else n

/-- One more token, unless it is a time or a number that cannot be read. -/
def Reading.next? (r : Reading) (token : List Char) : Option Reading :=
  if token.contains ':' then (clock? token).map fun clock => { r with clock := some clock }
  else match month? token with
    | some month => some { r with month := some month }
    | none =>
      if token.all Char.isDigit then
        (number? token).map fun n =>
          if r.day.isNone && token.length ≤ 2 then { r with day := some n }
          else { r with year := some (fullYear token.length n) }
      else some r

/-- Days from the start of 1970 to a date, with years that begin in March. -/
def daysFromCivil (year month day : Nat) : Int :=
  let y : Int := if month ≤ 2 then (year : Int) - 1 else year
  let era := y.fdiv 400
  let yearOfEra := y - era * 400
  let shifted : Int := if month > 2 then (month : Int) - 3 else month + 9
  let dayOfYear := (153 * shifted + 2) / 5 + day - 1
  let dayOfEra := yearOfEra * 365 + yearOfEra / 4 - yearOfEra / 100 + dayOfYear
  era * 146097 + dayOfEra - 719468

def Reading.seconds? (r : Reading) : Option Nat :=
  match r.day, r.month, r.year, r.clock with
  | some day, some month, some year, some clock =>
    if day < 1 || 31 < day || year < 1970 then none
    else
      let seconds := daysFromCivil year month day * 86400 +
        (clock.hour * 3600 + clock.minute * 60 + clock.second : Nat)
      if seconds < 0 then none else some seconds.toNat
  | _, _, _, _ => none

def tokens (text : List Char) : List (List Char) :=
  (text.splitOnP fun c => c == ' ' || c == ',' || c == '-').filter fun t => !t.isEmpty

def parse? (text : String) : Option Nat :=
  ((tokens text.toList).foldlM Reading.next? {}).bind Reading.seconds?

end HttpRequest.Date
