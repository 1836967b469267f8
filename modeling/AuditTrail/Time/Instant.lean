import AuditTrail.Number.Decimal
import AuditTrail.Time.Calendar

/-!
# Time/Instant — a timestamp in milliseconds as an instant with microseconds

`Instant.ofMillis` divides the timestamp by 1000 in floating point and rounds the fraction to
microseconds, so instants far from 1970 carry the rounding of the quotient.  It names each way in
which a timestamp can lie outside the calendar.
-/

namespace AuditTrail.Time

open AuditTrail.Number

/-- **Why a timestamp has no date.** -/
inductive TimeError
  /-- The quotient by 1000 is beyond floating point. -/
  | quotientTooLarge
  /-- The seconds do not fit into 64 bits. -/
  | secondsTooLarge
  /-- The year does not fit into 32 bits. -/
  | yearTooLarge
  /-- The year is not among 1 to 9999. -/
  | yearOutOfRange (year : Int)
  /-- The zone shifts the date out of the years 1 to 9999. -/
  | shiftOutOfRange
  deriving DecidableEq, Repr

/-- The text of the error. -/
def TimeError.message : TimeError → String
  | .quotientTooLarge => "integer division result too large for a float"
  | .secondsTooLarge => "timestamp out of range for platform time_t"
  | .yearTooLarge => "Value too large for defined data type"
  | .yearOutOfRange year => "year " ++ String.ofList (integerText year) ++ " is out of range"
  | .shiftOutOfRange => "date value out of range"

/-- **An instant**: whole seconds since 1970 and microseconds below one million. -/
structure Instant where
  seconds : Int
  micros : Nat
  deriving DecidableEq, Repr

/-- The seconds of one day. -/
def secondsPerDay : Int := 86400

/-- The date on which the instant falls. -/
def Instant.date (instant : Instant) : Date := Date.ofDay (instant.seconds / secondsPerDay)

/-- The first and last day number of the years 1 to 9999. -/
def firstDay : Int := -719162

/-- The last day of the year 9999. -/
def lastDay : Int := 2932896

/-- The calendar of the library covers the instant. -/
def Instant.inRange (instant : Instant) : Bool :=
  firstDay ≤ instant.seconds / secondsPerDay && instant.seconds / secondsPerDay ≤ lastDay

/-- The microseconds of the fraction of a quotient: the fraction is multiplied by a million in floating
point and rounded. -/
def fractionMicros (n d : Nat) : Nat := (Binary64.ofRatio false ((n % d) * 1000000) d).toNat

/-- The whole seconds toward zero and the rounded microseconds of a number of seconds; a million is
carried. -/
def splitSeconds (negative : Bool) (significand : Nat) (exponent : Int) : Int × Int :=
  let (n, d) := Binary64.ratio significand exponent
  let sign : Int := if negative then -1 else 1
  let seconds : Int := sign * Int.ofNat (n / d)
  let micros : Int := sign * Int.ofNat (fractionMicros n d)
  if 1000000 ≤ micros then (seconds + 1, micros - 1000000)
  else if micros < 0 then (seconds - 1, micros + 1000000)
  else (seconds, micros)

/-- **The instant of a timestamp in milliseconds**, if the calendar covers it. -/
def Instant.ofMillis (millis : Int) : Except TimeError Instant :=
  match Binary64.ofRatio (millis < 0) millis.natAbs 1000 with
  | .finite negative significand exponent =>
    let (seconds, micros) := splitSeconds negative significand exponent
    let instant : Instant := ⟨seconds, micros.toNat⟩
    if seconds < -(twoTo 63 : Int) ∨ (twoTo 63 : Int) ≤ seconds then .error .secondsTooLarge
    else
      let year := instant.date.year
      if year - 1900 < -(twoTo 31 : Int) ∨ (twoTo 31 : Int) ≤ year - 1900 then .error .yearTooLarge
      else if instant.inRange then .ok instant
      else .error (.yearOutOfRange year)
  | _ => .error .quotientTooLarge

/-- The instant moved by a number of seconds, if the calendar covers it still. -/
def Instant.shift (instant : Instant) (seconds : Int) : Except TimeError Instant :=
  let moved : Instant := ⟨instant.seconds + seconds, instant.micros⟩
  if moved.inRange then .ok moved else .error .shiftOutOfRange

end AuditTrail.Time
