/-!
# Time/Calendar — the proleptic Gregorian calendar by day number

Day 0 is 1970-01-01, a Thursday.  `Date.ofDay` and `Date.day` turn day numbers into dates and back for
every integer; the other definitions count days and weeks within a year.
-/

namespace AuditTrail.Time

/-- **A date**: the year may be any integer, the month is 1 to 12 and the day 1 to 31. -/
structure Date where
  year : Int
  month : Nat
  day : Nat
  deriving DecidableEq, Repr

/-- The day number of a date.  Years are counted from March, so that the leap day is their last. -/
def Date.dayNumber (date : Date) : Int :=
  let year := if date.month ≤ 2 then date.year - 1 else date.year
  let era := year / 400
  let yearOfEra := year % 400
  let monthFromMarch : Int := if date.month ≤ 2 then date.month + 9 else date.month - 3
  let dayOfYear := (153 * monthFromMarch + 2) / 5 + date.day - 1
  let dayOfEra := yearOfEra * 365 + yearOfEra / 4 - yearOfEra / 100 + dayOfYear
  era * 146097 + dayOfEra - 719468

/-- **The date of a day number.**  An era of 400 years has 146097 days. -/
def Date.ofDay (day : Int) : Date :=
  let shifted := day + 719468
  let era := shifted / 146097
  let dayOfEra := shifted % 146097
  let yearOfEra := (dayOfEra - dayOfEra / 1460 + dayOfEra / 36524 - dayOfEra / 146096) / 365
  let dayOfYear := dayOfEra - (365 * yearOfEra + yearOfEra / 4 - yearOfEra / 100)
  let monthFromMarch := (5 * dayOfYear + 2) / 153
  let dayOfMonth := dayOfYear - (153 * monthFromMarch + 2) / 5 + 1
  let month := if monthFromMarch < 10 then monthFromMarch + 3 else monthFromMarch - 9
  let year := yearOfEra + era * 400
  ⟨if month ≤ 2 then year + 1 else year, month.toNat, dayOfMonth.toNat⟩

/-- The weekday of a day number, Sunday being 0. -/
def weekday (day : Int) : Nat := ((day + 4) % 7).toNat

/-- The days from the start of the year, 1 January being 0. -/
def Date.dayOfYear (date : Date) : Nat := (date.dayNumber - Date.dayNumber ⟨date.year, 1, 1⟩).toNat

/-- The year has a leap day. -/
def isLeap (year : Int) : Bool := year % 4 == 0 && (year % 100 != 0 || year % 400 == 0)

/-- The number of days of a month. -/
def daysInMonth (year : Int) (month : Nat) : Nat :=
  if month = 2 then (if isLeap year then 29 else 28)
  else if month = 4 ∨ month = 6 ∨ month = 9 ∨ month = 11 then 30
  else 31

/-! ## Weeks -/

/-- The week of the year when weeks start on Sunday; the days before the first Sunday are week 0. -/
def Date.sundayWeek (date : Date) : Nat := (date.dayOfYear + 7 - weekday date.dayNumber) / 7

/-- The week of the year when weeks start on Monday; the days before the first Monday are week 0. -/
def Date.mondayWeek (date : Date) : Nat :=
  (date.dayOfYear + 7 - (weekday date.dayNumber + 6) % 7) / 7

/-- The weekday with Monday as 1 and Sunday as 7. -/
def isoWeekday (day : Int) : Nat := if weekday day = 0 then 7 else weekday day

/-- **The week by its Thursday**: the year that holds the Thursday of the week, and the number of the
week among the weeks of that year. -/
def Date.isoWeek (date : Date) : Int × Nat :=
  let thursday := date.dayNumber + 4 - isoWeekday date.dayNumber
  let year := (Date.ofDay thursday).year
  (year, ((thursday - Date.dayNumber ⟨year, 1, 1⟩) / 7 + 1).toNat)

end AuditTrail.Time
