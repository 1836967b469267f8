import AuditTrail.Event.Basic
import AuditTrail.LogFormat.Error
import AuditTrail.Number.Decimal
import AuditTrail.Time.Format

/-!
# LogFormat/Field — the values that a log line can show

A `FieldFunction` extracts a value from an event or fails; a `Registry` names such functions.
`standardFields` is the registry of the facts of an event, with the timestamp in milliseconds or
written in a time format.
-/

namespace AuditTrail

open AuditTrail.Number AuditTrail.Time

/-- **A value of a field.** -/
inductive FieldValue
  | absent
  | text (value : String)
  | integer (value : Int)
  | boolean (value : Bool)
  | number (value : Binary64)
  deriving DecidableEq, Repr

namespace FieldValue

/-- The most digits that an integer is written with. -/
def mostDigits : Nat := 4300

/-- An integer has too many digits to be written. -/
def tooLong : Fault :=
  .other .value ("Exceeds the limit (4300 digits) for integer string conversion; " ++
    "use sys.set_int_max_str_digits() to increase the limit")

/-- **The text of a value in a log line.**  Of all values only long integers have none. -/
def shown : FieldValue → Except Fault String
  | absent => .ok "null"
  | text s => .ok s
  | integer i =>
    if (digitsOf i.natAbs).length ≤ mostDigits then .ok (String.ofList (integerText i)) else .error tooLong
  | boolean b => .ok (if b then "True" else "False")
  | number x => .ok (String.ofList x.shortest)

/-- A text that may be absent. -/
def ofText? : Option String → FieldValue
  | some s => text s
  | none => absent

end FieldValue

/-- A function that extracts a value, or fails. -/
abbrev FieldFunction := Event → Except Fault FieldValue

/-- A function for the names that a registry does not know. -/
abbrev Fallback := String → FieldFunction

/-- **Functions by name**; a name can be taken without a function. -/
abbrev Registry := List (String × Option FieldFunction)

/-- The function of a name: that of the registry, else what the fallback does for the name. -/
def Registry.resolve? (registry : Registry) (fallback : Option Fallback) (name : String) :
    Option FieldFunction :=
  match registry.lookup name with
  | some (some function) => some function
  | _ => fallback.map (· name)

/-! ## Timestamps -/

/-- The fault that a failure to date a timestamp is. -/
def timeFault : TimeError → Fault
  | .quotientTooLarge => .other .overflow TimeError.quotientTooLarge.message
  | .secondsTooLarge => .other .overflow TimeError.secondsTooLarge.message
  | .yearTooLarge => .system ⟨.valueTooLarge, []⟩
  | .yearOutOfRange year => .other .value (TimeError.yearOutOfRange year).message
  | .shiftOutOfRange => .other .overflow TimeError.shiftOutOfRange.message

/-- **The zone of a setting**: that of the host when none is set. -/
def zoneOf (zones : Zones) : Option String → Except FormatError Zone
  | none => .ok zones.own
  | some name =>
    match zones.find name with
    | .ok zone => .ok zone
    | .error .unknown => .error (.unknownZone name)
    | .error .malformed => .error (.unknownZone name)
    | .error (.raised fault) => .error (.unreadableZone fault)

/-- The time format of a setting; it may not be empty. -/
def timeFormatOf (format : String) : Except FormatError TimeFormat :=
  if format.isEmpty then .error .emptyTimeFormat
  else (TimeFormat.read format.toList).mapError (.unsupportedDirective format)

/-- **The timestamp field**: the milliseconds, or the time written in a format and a zone.  The zone is
checked even where it is not used. -/
def timestampField (zones : Zones) (format zone : Option String) : Except FormatError FieldFunction := do
  let zone ← zoneOf zones zone
  match format with
  | none => return fun e => .ok (.integer e.timestamp)
  | some format =>
    let format ← timeFormatOf format
    return fun e => match format.apply zone e.timestamp with
      | .ok s => .ok (.text s)
      | .error error => .error (timeFault error)

/-! ## The standard fields -/

/-- **The facts of an event by name**, with a given timestamp field. -/
def standardFieldsWith (timestamp : FieldFunction) : Registry := [
  ("CLIENT_IP", some fun e => .ok (.ofText? e.clientAddress)),
  ("CLIENT_PORT", some fun e => .ok (match e.clientPort with
    | some number => .integer number
    | none => .absent)),
  ("COORDINATOR_IP", some fun e => .ok (.ofText? e.coordinatorAddress)),
  ("USER", some fun e => .ok (.text e.principal)),
  ("BATCH_ID", some fun e => .ok (.ofText? (e.batchId.map Uuid.text))),
  ("STATUS", some fun e => .ok (.text e.status.name)),
  ("OPERATION", some fun e => .ok (.ofText? e.operation)),
  ("OPERATION_NAKED", some fun e => .ok (.ofText? (e.nakedOperation <|> e.operation))),
  ("TIMESTAMP", some timestamp)]

/-- **The standard registry** for a time format and a zone. -/
def standardFields (zones : Zones) (timeFormat timeZone : Option String) : Except FormatError Registry :=
  (timestampField zones timeFormat timeZone).map standardFieldsWith

end AuditTrail
