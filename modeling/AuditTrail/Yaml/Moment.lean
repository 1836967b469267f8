import AuditTrail.Number.Decimal
import AuditTrail.Text.Word
import AuditTrail.Time.Calendar
import AuditTrail.Yaml.Cursor

/-!
# Yaml/Moment — dates and times in documents

A moment is a date, or a date with a time of day and perhaps a distance from universal time.
`Moment.parse?` reads its form, `Moment.defect?` tells why there is no such moment, and `Moment.shown`
is how it is shown.
-/

namespace AuditTrail.Yaml

open AuditTrail.Text AuditTrail.Number AuditTrail.Time

/-- A time of day, with the minutes by which its zone is ahead. -/
structure ClockTime where
  hour : Nat
  minute : Nat
  second : Nat
  micro : Nat
  offset : Option Int
  deriving DecidableEq, Repr

/-- **A date, perhaps with a time of day.** -/
structure Moment where
  date : Date
  time : Option ClockTime
  deriving DecidableEq, Repr

namespace Moment

/-! ## Reading -/

/-- A number of at least and at most so many digits. -/
def takeNumber? (least most : Nat) (cs : List Char) : Option (Nat × List Char) :=
  let digits := (cs.takeWhile isAsciiDigit).take most
  if digits.length < least then none else some (foldDigits 0 digits, cs.drop digits.length)

/-- The text after a mark. -/
def afterMark? (mark : Char) : List Char → Option (List Char)
  | c :: rest => if c = mark then some rest else none
  | [] => none

/-- What stands between a date and a time: a letter, or blanks. -/
def afterDate? (cs : List Char) : Option (List Char) :=
  match cs with
  | 'T' :: rest => some rest
  | 't' :: rest => some rest
  | _ => if isSpacing (cs.headD '0') then some (cs.dropWhile isSpacing) else none

/-- The millionths of a second in a fraction; further digits are dropped. -/
def micros (digits : List Char) : Nat :=
  foldDigits 0 ((digits ++ List.replicate 6 '0').take 6)

/-- The fraction of a second, if there is one. -/
def takeFraction : List Char → Nat × List Char
  | '.' :: rest => (micros (rest.takeWhile isAsciiDigit), rest.dropWhile isAsciiDigit)
  | rest => (0, rest)

/-- The minutes of a zone after its hours, if there are any. -/
def zoneMinutes? : List Char → Option Nat
  | [] => some 0
  | rest => do
    let (minutes, last) ← takeNumber? 2 2 (← afterMark? ':' rest)
    if last.isEmpty then some minutes else none

/-- The zone at the end of a time, after blanks. -/
def zone? (cs : List Char) : Option (Option Int) :=
  if cs.isEmpty then some none
  else match cs.dropWhile isSpacing with
  | ['Z'] => some (some 0)
  | sign :: rest =>
    if sign = '+' ∨ sign = '-' then do
      let (hours, rest) ← takeNumber? 1 2 rest
      let ahead : Int := 60 * hours + (← zoneMinutes? rest)
      some (some (if sign = '-' then -ahead else ahead))
    else none
  | [] => none

/-- A time of day to the end of the text. -/
def clockTime? (cs : List Char) : Option ClockTime := do
  let (hour, rest) ← takeNumber? 1 2 cs
  let (minute, rest) ← takeNumber? 2 2 (← afterMark? ':' rest)
  let (second, rest) ← takeNumber? 2 2 (← afterMark? ':' rest)
  let (micro, rest) := takeFraction rest
  return ⟨hour, minute, second, micro, ← zone? rest⟩

/-- **The moment that has the form of a text.** -/
def parse? (cs : List Char) : Option Moment := do
  let (year, rest) ← takeNumber? 4 4 cs
  let (month, rest) ← takeNumber? 1 2 (← afterMark? '-' rest)
  let (day, rest) ← takeNumber? 1 2 (← afterMark? '-' rest)
  let date : Date := ⟨year, month, day⟩
  if rest.isEmpty then return ⟨date, none⟩
  return ⟨date, some (← clockTime? (← afterDate? rest))⟩

/-- A plain scalar is a moment: alone, a date has two digits for the month and for the day. -/
def hasForm (cs : List Char) : Bool :=
  match parse? cs with
  | some moment => moment.time.isSome || cs.length == 10
  | none => false

/-! ## Moments that do not exist -/

/-- A distance in minutes as it is shown: whole days, negative ones too, and seconds. -/
def shownDistance (minutes : Int) : String :=
  let days := minutes.fdiv 1440
  let seconds := minutes.fmod 1440 * 60
  let day := if days = 0 then [] else ["days=" ++ String.ofList (integerText days)]
  let second := if seconds = 0 then [] else ["seconds=" ++ String.ofList (integerText seconds)]
  "datetime.timedelta(" ++ ", ".intercalate (day ++ second) ++ ")"

/-- Why there is no such distance from universal time. -/
def offsetDefect? (minutes : Int) : Option String :=
  if minutes.natAbs < 1440 then none
  else some ("offset must be a timedelta strictly between -timedelta(hours=24) and " ++
    "timedelta(hours=24), not " ++ shownDistance minutes ++ ".")

/-- Why there is no such date. -/
def dateDefect? (date : Date) : Option String :=
  if date.year = 0 then some "year 0 is out of range"
  else if date.month = 0 ∨ 12 < date.month then some "month must be in 1..12"
  else if date.day = 0 ∨ daysInMonth date.year date.month < date.day then
    some "day is out of range for month"
  else none

/-- Why there is no such time of day. -/
def timeDefect? (time : ClockTime) : Option String :=
  if 23 < time.hour then some "hour must be in 0..23"
  else if 59 < time.minute then some "minute must be in 0..59"
  else if 59 < time.second then some "second must be in 0..59"
  else none

/-- **Why there is no such moment.** -/
def defect? (moment : Moment) : Option String :=
  match moment.time with
  | none => dateDefect? moment.date
  | some time =>
    ((time.offset.bind offsetDefect?).or (dateDefect? moment.date)).or (timeDefect? time)

/-! ## Showing -/

/-- The zone of a shown time. -/
def shownZone (minutes : Int) : String :=
  if minutes = 0 then "tzinfo=datetime.timezone.utc"
  else "tzinfo=datetime.timezone(" ++ shownDistance minutes ++ ")"

/-- The seconds of a shown time, with their fraction; zeros at the end are left out. -/
def shownSeconds (time : ClockTime) : List Nat :=
  if time.micro ≠ 0 then [time.second, time.micro]
  else if time.second ≠ 0 then [time.second]
  else []

/-- **How a moment is shown.** -/
def shown (moment : Moment) : String :=
  let date := [moment.date.year.toNat, moment.date.month, moment.date.day]
  let join (numbers : List Nat) (more : List String) : String :=
    ", ".intercalate (numbers.map (fun n => String.ofList (digitsOf n)) ++ more)
  match moment.time with
  | none => "datetime.date(" ++ join date [] ++ ")"
  | some time =>
    let numbers := date ++ [time.hour, time.minute] ++ shownSeconds time
    "datetime.datetime(" ++ join numbers (time.offset.toList.map shownZone) ++ ")"

end Moment

end AuditTrail.Yaml
