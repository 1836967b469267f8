import AuditTrail.Time.Calendar
import AuditTrail.Time.Zone

/-!
# Time/Database — the zones that the program brings along

`Zones.builtIn` is a small database for the executable, with the rules of nine zones and the directories
they are in.  It stands in for that of the system, and nothing is proved of it.
-/

namespace AuditTrail.Time

/-- The day number of the `nth` Sunday of a month, counted from 1. -/
def nthSunday (nth : Nat) (year : Int) (month : Nat) : Int :=
  let first := Date.dayNumber ⟨year, month, 1⟩
  first + ((7 - weekday first) % 7 : Nat) + 7 * ((nth : Int) - 1)

/-- The day number of the last Sunday of a month. -/
def lastSunday (year : Int) (month : Nat) : Int :=
  let last := Date.dayNumber ⟨year, month, daysInMonth year month⟩
  last - weekday last

/-- The zone of two offsets.  `starts` and `ends` are the seconds since 1970 at which summer time starts and
ends in a year; on the southern half the summer spans the turn of the year. -/
def Zone.seasonal (standard summer : Offset) (starts ends : (year : Int) → Int) : Zone where
  offsetAt seconds :=
    let year := (Date.ofDay (seconds / 86400)).year
    let first := starts year
    let last := ends year
    let inSummer : Bool :=
      if first ≤ last then first ≤ seconds && seconds < last else seconds < last || first ≤ seconds
    if inSummer then summer else standard

/-- The second at which a wall clock with an offset in minutes shows a time of day, on a given day. -/
def wallSecond (day : Int) (minuteOfDay offset : Int) : Int := day * 86400 + (minuteOfDay - offset) * 60

/-- Central European time: summer from the last Sunday of March to the last Sunday of October, at one
o'clock universal time. -/
def Zone.centralEurope : Zone :=
  .seasonal ⟨3600, "CET", by decide⟩ ⟨7200, "CEST", by decide⟩
    (fun year => wallSecond (lastSunday year 3) 60 0)
    (fun year => wallSecond (lastSunday year 10) 60 0)

/-- Eastern time: summer from the second Sunday of March to the first Sunday of November, at two
o'clock of the wall clock. -/
def Zone.easternAmerica : Zone :=
  .seasonal ⟨-18000, "EST", by decide⟩ ⟨-14400, "EDT", by decide⟩
    (fun year => wallSecond (nthSunday 2 year 3) 120 (-300))
    (fun year => wallSecond (nthSunday 1 year 11) 120 (-240))

/-- Newfoundland time: the Sundays of eastern time, at two o'clock of the wall clock, and one minute
past midnight until the autumn of 2011. -/
def Zone.newfoundland : Zone :=
  .seasonal ⟨-12600, "NST", by decide⟩ ⟨-9000, "NDT", by decide⟩
    (fun year => wallSecond (nthSunday 2 year 3) (if year ≤ 2011 then 1 else 120) (-210))
    (fun year => wallSecond (nthSunday 1 year 11) (if year < 2011 then 1 else 120) (-150))

/-- Lord Howe Island: half an hour of summer time from the first Sunday of October to the first
Sunday of April, at two o'clock of the wall clock. -/
def Zone.lordHowe : Zone :=
  .seasonal ⟨37800, "+1030", by decide⟩ ⟨39600, "+11", by decide⟩
    (fun year => wallSecond (nthSunday 1 year 10) 120 630)
    (fun year => wallSecond (nthSunday 1 year 4) 120 660)

/-- The zones by name. -/
def zoneTable : List (String × Zone) := [
  ("UTC", .utc),
  ("Europe/Stockholm", .centralEurope),
  ("America/New_York", .easternAmerica),
  ("America/St_Johns", .newfoundland),
  ("Asia/Kolkata", .fixed ⟨19800, "IST", by decide⟩),
  ("Asia/Kathmandu", .fixed ⟨20700, "+0545", by decide⟩),
  ("Australia/Lord_Howe", .lordHowe),
  ("Etc/GMT+5", .fixed ⟨-18000, "-05", by decide⟩),
  ("Etc/GMT-14", .fixed ⟨50400, "+14", by decide⟩)]

/-- The directories, which are names of no zone. -/
def zoneDirectories : List String := [
  "Africa", "America", "America/Argentina", "America/Indiana", "America/Kentucky",
  "America/North_Dakota", "Antarctica", "Arctic", "Asia", "Atlantic", "Australia", "Brazil",
  "Canada", "Chile", "Etc", "Europe", "Indian", "Mexico", "Pacific", "US"]

/-- A name that a zone can have: no null character and no empty, `.` or `..` part. -/
def isZoneName (name : String) : Bool :=
  !name.toList.contains '\x00' &&
    (name.toList.splitOn '/').all fun part => part ≠ [] && part ≠ ['.'] && part ≠ ['.', '.']

/-- The last part of a name has more than 255 bytes, and the parts before it are a directory. -/
def isLongZoneName (name : String) : Bool :=
  let parts := name.toList.splitOn '/'
  let directory := String.ofList (['/'].intercalate parts.dropLast)
  let file := String.ofList (parts.getLastD [])
  255 < file.utf8ByteSize && (parts.length == 1 || zoneDirectories.contains directory)

/-- **The zones that the program brings along**; its own one is universal time. -/
def Zones.builtIn : Zones where
  own := .utc
  find name :=
    match zoneTable.lookup name with
    | some zone => .ok zone
    | none =>
      if zoneDirectories.contains name then .error (.raised (.system ⟨.isDirectory, []⟩))
      else if !isZoneName name then .error .malformed
      else if isLongZoneName name then .error (.raised (.system ⟨.nameTooLong, []⟩))
      else .error .unknown

end AuditTrail.Time
