import AuditTrail.Fault

/-!
# Time/Zone — time zones, as the host knows them

A `Zone` has an offset from universal time at every instant.  Which zones there are, and which one is
that of the host itself, is told by the host: `Zones` looks a name up, and may fail to.
-/

namespace AuditTrail.Time

/-- **An offset** in seconds east of universal time, less than a day, with the abbreviation that goes with
it. -/
structure Offset where
  seconds : Int
  abbreviation : String
  bounded : seconds.natAbs < 86400
  deriving DecidableEq, Repr

/-- **A time zone**: the offset in force at an instant, given in seconds since 1970. -/
structure Zone where
  offsetAt : (seconds : Int) → Offset

/-- The zone of one offset. -/
def Zone.fixed (offset : Offset) : Zone := ⟨fun _ => offset⟩

/-- Universal time. -/
def Zone.utc : Zone := .fixed ⟨0, "UTC", by decide⟩

/-- **Why a name gives no zone.** -/
inductive ZoneFailure
  /-- There is no zone of the name. -/
  | unknown
  /-- The name is none that a zone can have. -/
  | malformed
  /-- Any other failure of looking it up. -/
  | raised (fault : Fault)
  deriving DecidableEq, Repr

/-- **The zones of a host**: its own one, and those that it finds by name. -/
structure Zones where
  own : Zone
  find : (name : String) → Except ZoneFailure Zone

/-- A host in universal time, which finds that zone by name and no other. -/
def Zones.universal : Zones where
  own := .utc
  find name := if name = "UTC" then .ok .utc else .error .unknown

end AuditTrail.Time
