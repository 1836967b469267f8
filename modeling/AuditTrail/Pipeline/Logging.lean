import AuditTrail.Substitution

/-!
# Pipeline/Logging — records handed to a logger

A logger gets the template and the arguments, so that its handlers can keep the template.  Without
arguments it gets the finished message, since then it fills in nothing.
-/

namespace AuditTrail

/-- The level of records, and the level from which a logger takes them. -/
structure LoggerSettings where
  level : Int
  threshold : Int
  deriving DecidableEq, Repr

/-- Records at the level of information, to a logger that takes everything from debugging up. -/
def LoggerSettings.default : LoggerSettings := ⟨20, 10⟩

/-- **A record as a logger takes it.** -/
structure LogRecord where
  level : Int
  template : String
  arguments : List String
  message : String
  deriving DecidableEq, Repr

/-- **What the logger takes of a record**, nothing below its threshold; the error is that of a template
that does not fit its arguments. -/
def logRecord (settings : LoggerSettings) (template : String) (arguments : List String) :
    Except String (Option LogRecord) :=
  (Substitution.substitute template arguments).map fun message =>
    if settings.level < settings.threshold then none
    else some ⟨settings.level, if arguments.isEmpty then message else template, arguments, message⟩

end AuditTrail
