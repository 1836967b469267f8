import AuditTrail.Journal.Basic
import AuditTrail.Pipeline.Logging

/-!
# Pipeline/Backend — where records are committed

A `Backend` is a logger, a journal file, or a sink of the host.  Each substitutes one anchor and
requires one escape of the text around the fields.
-/

namespace AuditTrail

open AuditTrail.Text

/-- **A sink of the host**: how it is called, what it substitutes, what it does with a record, and how
long that takes in microseconds. -/
structure HostSink where
  name : String
  anchor : String
  escape : Option (String × String)
  emit : String → List String → Except Fault Unit
  cost : Nat

/-- **Where records go.** -/
inductive Backend
  | logging (settings : LoggerSettings)
  | journal (settings : JournalSettings)
  | host (sink : HostSink)

/-- What is handed over in memory. -/
inductive Emission
  | logged (r : LogRecord)
  | handed (template : String) (arguments : List String)
  deriving DecidableEq, Repr

/-- The anchor of templates that are filled in with `%`. -/
def percentAnchor : String := "%s"

/-- The escape that keeps a `%` in the text around the fields. -/
def percentEscape : String × String := ("%", "%%")

namespace Backend

/-- The name of the backend. -/
def name : Backend → String
  | logging _ => "LoggingBackend"
  | journal _ => "JsonlFileBackend"
  | host sink => sink.name

/-- The anchor that the backend substitutes. -/
def anchor : Backend → String
  | host sink => sink.anchor
  | _ => percentAnchor

/-- The escape that the backend requires. -/
def escape : Backend → Option (String × String)
  | host sink => sink.escape
  | _ => some percentEscape

end Backend

/-- An escape as it is shown. -/
def shownEscape : Option (String × String) → String
  | none => "None"
  | some (pattern, replacement) => "(" ++ quote pattern ++ ", " ++ quote replacement ++ ")"

end AuditTrail
