import AuditTrail.Text.Word
import AuditTrail.Time.Instant
import AuditTrail.Time.Zone

/-!
# Time/Format — time formats, read into directives and applied to an instant

A time format is plain text with directives of a `%` and one letter.  `TimeFormat.read` accepts
exactly the sequences of plain characters and known directives and names the first other one;
`TimeFormat.apply` writes an instant in a zone.
-/

namespace AuditTrail.Time

open AuditTrail.Number

/-- **The directives of a time format.** -/
inductive Directive
  | weekdayShort | weekdayLong | weekdayNumber | dayOfMonth
  | monthShort | monthLong | month
  | yearOfCentury | year
  | hour | hourOfHalf | half | minute | second | microsecond
  | offset | zoneName
  | dayOfYear | sundayWeek | mondayWeek
  | dateTime | date | time
  | isoYear | isoWeekday | isoWeek
  | percent
  deriving DecidableEq, Repr

/-- The directive of a letter. -/
def Directive.ofChar? : Char → Option Directive
  | 'a' => some .weekdayShort
  | 'A' => some .weekdayLong
  | 'w' => some .weekdayNumber
  | 'd' => some .dayOfMonth
  | 'b' => some .monthShort
  | 'B' => some .monthLong
  | 'm' => some .month
  | 'y' => some .yearOfCentury
  | 'Y' => some .year
  | 'H' => some .hour
  | 'I' => some .hourOfHalf
  | 'p' => some .half
  | 'M' => some .minute
  | 'S' => some .second
  | 'f' => some .microsecond
  | 'z' => some .offset
  | 'Z' => some .zoneName
  | 'j' => some .dayOfYear
  | 'U' => some .sundayWeek
  | 'W' => some .mondayWeek
  | 'c' => some .dateTime
  | 'x' => some .date
  | 'X' => some .time
  | 'G' => some .isoYear
  | 'u' => some .isoWeekday
  | 'V' => some .isoWeek
  | '%' => some .percent
  | _ => none

/-- A plain character or a directive. -/
inductive FormatPiece
  | plain (c : Char)
  | directive (d : Directive)
  deriving DecidableEq, Repr

/-- A time format, read. -/
abbrev TimeFormat := List FormatPiece

/-- **Reading a time format** from left to right; the error is the first character after a `%` that
is no directive, none at the end of the text. -/
def TimeFormat.read : List Char → Except (Option Char) TimeFormat
  | [] => .ok []
  | ['%'] => .error none
  | '%' :: c :: rest =>
    match Directive.ofChar? c with
    | some d => (TimeFormat.read rest).map (.directive d :: ·)
    | none => .error (some c)
  | c :: rest => (TimeFormat.read rest).map (.plain c :: ·)

/-! ## Writing -/

/-- The weekdays from Sunday on. -/
def weekdayNames : List String :=
  ["Sunday", "Monday", "Tuesday", "Wednesday", "Thursday", "Friday", "Saturday"]

/-- The months from January on. -/
def monthNames : List String :=
  ["January", "February", "March", "April", "May", "June", "July", "August", "September", "October",
    "November", "December"]

/-- The name at a place of a list. -/
def nameAt (names : List String) (n : Nat) : List Char := (names.getD n "").toList

/-- **An instant in a zone**: the instant of its wall clock and the offset in force. -/
structure LocalTime where
  wall : Instant
  offset : Offset

/-- The wall clock of an instant in a zone. -/
def LocalTime.of (zone : Zone) (instant : Instant) : Except TimeError LocalTime :=
  let offset := zone.offsetAt instant.seconds
  (instant.shift offset.seconds).map (⟨·, offset⟩)

/-- The second of the day. -/
def LocalTime.secondOfDay (t : LocalTime) : Nat := (t.wall.seconds % secondsPerDay).toNat

/-- The sign, hours and minutes of an offset, and its seconds if there are any. -/
def Offset.text (offset : Offset) : List Char :=
  let s := offset.seconds.natAbs
  (if offset.seconds < 0 then '-' else '+') :: padded 2 (s / 3600) ++ padded 2 (s / 60 % 60) ++
    if s % 60 = 0 then [] else padded 2 (s % 60)

/-- The day of the month padded with a blank. -/
def blankPadded (n : Nat) : List Char := if n < 10 then ' ' :: digitsOf n else digitsOf n

/-- Hours, minutes and seconds with colons. -/
def clockText (s : Nat) : List Char :=
  padded 2 (s / 3600) ++ ':' :: padded 2 (s / 60 % 60) ++ ':' :: padded 2 (s % 60)

/-- The text of a directive.  Years have no padding. -/
def Directive.text (t : LocalTime) (d : Directive) : List Char :=
  let date := t.wall.date
  let dayNumber := t.wall.seconds / secondsPerDay
  let s := t.secondOfDay
  match d with
  | .weekdayShort => (nameAt weekdayNames (weekday dayNumber)).take 3
  | .weekdayLong => nameAt weekdayNames (weekday dayNumber)
  | .weekdayNumber => digitsOf (weekday dayNumber)
  | .dayOfMonth => padded 2 date.day
  | .monthShort => (nameAt monthNames (date.month - 1)).take 3
  | .monthLong => nameAt monthNames (date.month - 1)
  | .month => padded 2 date.month
  | .yearOfCentury => padded 2 (date.year % 100).toNat
  | .year => integerText date.year
  | .hour => padded 2 (s / 3600)
  | .hourOfHalf => padded 2 ((s / 3600 + 11) % 12 + 1)
  | .half => if s < 43200 then ['A', 'M'] else ['P', 'M']
  | .minute => padded 2 (s / 60 % 60)
  | .second => padded 2 (s % 60)
  | .microsecond => padded 6 t.wall.micros
  | .offset => t.offset.text
  | .zoneName => t.offset.abbreviation.toList
  | .dayOfYear => padded 3 (date.dayOfYear + 1)
  | .sundayWeek => padded 2 date.sundayWeek
  | .mondayWeek => padded 2 date.mondayWeek
  | .dateTime =>
    (nameAt weekdayNames (weekday dayNumber)).take 3 ++ ' ' ::
      (nameAt monthNames (date.month - 1)).take 3 ++ ' ' :: blankPadded date.day ++ ' ' ::
      clockText s ++ ' ' :: integerText date.year
  | .date => padded 2 date.month ++ '/' :: padded 2 date.day ++ '/' ::
      padded 2 (date.year % 100).toNat
  | .time => clockText s
  | .isoYear => integerText date.isoWeek.1
  | .isoWeekday => digitsOf (Time.isoWeekday dayNumber)
  | .isoWeek => padded 2 date.isoWeek.2
  | .percent => ['%']

/-- The text of one piece. -/
def FormatPiece.text (t : LocalTime) : FormatPiece → List Char
  | .plain c => [c]
  | .directive d => d.text t

/-- The pieces of a time format that are written: those before the first null character. -/
def TimeFormat.written (format : TimeFormat) : TimeFormat := format.takeWhile (· ≠ .plain '\x00')

/-- **The text of a timestamp** in milliseconds, in a zone. -/
def TimeFormat.apply (format : TimeFormat) (zone : Zone) (millis : Int) : Except TimeError String := do
  let instant ← Instant.ofMillis millis
  let t ← LocalTime.of zone instant
  return String.ofList (format.written.flatMap (FormatPiece.text t))

end AuditTrail.Time
