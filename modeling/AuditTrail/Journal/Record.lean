import AuditTrail.Files.Path
import AuditTrail.Json.Writer
import AuditTrail.Text.Utf8
import AuditTrail.Time.Instant

/-!
# Journal/Record — the lines of a journal and the names of its files

A record is one line of JSON with the time of writing, the message, and the template and arguments that
the message was made of.  `rotatedPath` is the path under which a file is put away.
-/

namespace AuditTrail

open AuditTrail.Number AuditTrail.Text AuditTrail.Time

/-- **A moment of the clock** in microseconds since 1970, universal time. -/
abbrev Moment := Int

namespace Journal

/-- The date of a moment. -/
def dateOf (m : Moment) : Date := Date.ofDay (m / 86400000000)

/-- The second of the day of a moment. -/
def secondOfDay (m : Moment) : Nat := (m / 1000000 % 86400).toNat

/-- The microseconds of a moment. -/
def microsOf (m : Moment) : Nat := (m % 1000000).toNat

/-- The time of a record: date and time of day, with the microseconds if there are any. -/
def isoText (m : Moment) : List Char :=
  let date := dateOf m
  let s := secondOfDay m
  padded 4 date.year.toNat ++ '-' :: padded 2 date.month ++ '-' :: padded 2 date.day ++
    'T' :: padded 2 (s / 3600) ++ ':' :: padded 2 (s / 60 % 60) ++ ':' :: padded 2 (s % 60) ++
    (if microsOf m = 0 then [] else '.' :: padded 6 (microsOf m)) ++ "+00:00".toList

/-- The time in the name of a rotated file, by which such names are in the order of time. -/
def stampText (m : Moment) : List Char :=
  let date := dateOf m
  let s := secondOfDay m
  integerText date.year ++ padded 2 date.month ++ padded 2 date.day ++ '_' ::
    padded 2 (s / 3600) ++ padded 2 (s / 60 % 60) ++ padded 2 (s % 60) ++ '_' ::
    padded 6 (microsOf m)

/-- **The value of a record.** -/
def recordData (m : Moment) (message template : String) (arguments : List String) : Data :=
  .ofFields [
    ("timestamp", .text (String.ofList (isoText m))), ("message", .text message),
    ("template", .text template), ("arguments", .list (arguments.map .text))]

/-- **The line of a record**, with its line break. -/
def recordLine (m : Moment) (message template : String) (arguments : List String) : List UInt8 :=
  encodeUtf8 (Json.writeChars (recordData m message template arguments) ++ ['\n'])

/-- **The path of a file that is put away** at a moment: the stem, the time and the suffix. -/
def rotatedPath (path : Path) (m : Moment) : Path :=
  path.parent.child (path.stem ++ "_" ++ String.ofList (stampText m) ++ path.suffix)

/-- The pattern of the names of files that were put away. -/
def rotatedPattern (path : Path) : List Char := (path.stem ++ "_*" ++ path.suffix).toList

end Journal

end AuditTrail
