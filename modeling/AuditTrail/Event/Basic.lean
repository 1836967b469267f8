import AuditTrail.Access.Name
import AuditTrail.Event.Uuid

/-!
# Event/Basic — the facts of one audited call

An `Event` is what the host tells about a call.  Redaction does not change an event, it makes a new
one with another operation text (`Event.withOperation`).
-/

namespace AuditTrail

/-- The outcome of the call when the event was produced. -/
inductive Status
  | attempt | succeeded | failed
  deriving DecidableEq, Repr

namespace Status

/-- Every status. -/
def all : List Status := [.attempt, .succeeded, .failed]

/-- The name of a status. -/
def name : Status → String
  | .attempt => "ATTEMPT"
  | .succeeded => "SUCCEEDED"
  | .failed => "FAILED"

/-- The status of a name, which is compared exactly. -/
def ofName? (name : String) : Option Status := all.find? (·.name == name)

end Status

/-- **An audited call.**  `operationKnown` tells that `operation` is the text of the statement itself;
`nakedOperation` is the text without bound values; `timestamp` counts milliseconds since 1970. -/
structure Event where
  principal : String
  clientAddress : Option String
  clientPort : Option Int
  coordinatorAddress : Option String
  batchId : Option Uuid
  status : Status
  operation : Option String
  operationKnown : Bool
  nakedOperation : Option String
  permissions : List Permission
  resource : Resource
  timestamp : Int
  deriving DecidableEq, Repr

namespace Event

/-- The operation text is there and is that of the statement. -/
def hasKnownOperation (e : Event) : Bool := e.operation.isSome && e.operationKnown

/-- The event with another operation text. -/
def withOperation (e : Event) (text : String) : Event := { e with operation := some text }

end Event

end AuditTrail
