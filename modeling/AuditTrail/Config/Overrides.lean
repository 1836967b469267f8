import AuditTrail.Config.Basic
import AuditTrail.Schema.Composite
import AuditTrail.Text.Case

/-!
# Config/Overrides — settings from the environment

Variables of the environment choose the configuration file and override single settings of it.  The
case of their names does not count, and of several spellings of one name the last one counts.
-/

namespace AuditTrail

open AuditTrail.Schema AuditTrail.Text

/-- The variables of the environment with their values. -/
abbrev Environment := List (String × String)

/-- **What the environment sets**: the file, and the settings that it overrides. -/
structure Overrides where
  path : Option Path
  filter : Option FilterChoice
  timing : Option Timing
  redactUnknown : Option Bool
  suppressPrepare : Option Bool
  format : Option String
  deriving DecidableEq, Repr

namespace Overrides

/-- The start of the names of all variables. -/
def nameStart : String := "dbaudit_"

/-- The value of the variable of a setting. -/
def value? (environment : Environment) (setting : String) : Option String :=
  (environment.reverse.find? fun (name, _) =>
    lower name.toList == (nameStart ++ setting).toList).map (·.2)

/-- The checked value of a setting, if it is set. -/
def setting {α : Type} (environment : Environment) (name : String) (check : Data → Checked α) :
    Checked (Option α) :=
  match value? environment name with
  | some value => (some <$> check (.text value)).under name
  | none => .valid none

/-- **The settings of an environment.**  A value that is set but empty counts. -/
def check (environment : Environment) : Checked Overrides :=
  Overrides.mk
    <$> setting environment "config_path" Schema.path
    <*> setting environment "filter" (oneOf FilterChoice.ofName?)
    <*> setting environment "log_timing_strategy" (oneOf Timing.ofName?)
    <*> setting environment "redact_unknown_operation" boolean
    <*> setting environment "suppress_prepare_statements" boolean
    <*> setting environment "log_format" text

/-- **The configuration with what the environment sets in place of its own.** -/
def apply (overrides : Overrides) (config : Config) : Config :=
  { config with
    filter := overrides.filter.getD config.filter
    timing := overrides.timing.getD config.timing
    redactUnknown := overrides.redactUnknown.getD config.redactUnknown
    suppressPrepare := overrides.suppressPrepare.getD config.suppressPrepare
    line := { config.line with format := overrides.format.getD config.line.format } }

end Overrides

end AuditTrail
