import AuditTrail.Config.Load
import AuditTrail.Config.Validation
import AuditTrail.Yaml.Value

/-!
# Config/BuiltIn — what the program reads configurations with

`Intake.builtIn` puts the reader of YAML and the checks of the settings into the places that `Config.load`
leaves open.  It stands in for what a host takes from its libraries: a file is decoded whole before its
structure is looked at, nesting has no limit, and reports give no details.
-/

namespace AuditTrail

/-- The number of issues in words. -/
def countText (issues : List Issue) : String :=
  toString issues.length ++ " validation error" ++ if issues.length = 1 then "" else "s"

/-- A check whose failure is reported under the name of what is checked. -/
def Checked.reported {α : Type} (name : String) : Checked α → Except Invalid α
  | .valid value => .ok value
  | .invalid issues => .error ⟨issues, countText issues ++ " for " ++ name⟩

/-- The failure of a document. -/
def Yaml.Failure.toDocument : Yaml.Failure → DocumentFailure
  | .malformed => .malformed ""
  | .undecodable => .raised (.other .decoding "")
  | .impossible kind reason => .raised (.other kind reason)

/-- What a value is as a document. -/
def Data.document : Data → Document (List (Data × Data))
  | .null => .nothing
  | .mapping entries => .mapping entries
  | _ => .other

/-- **The reader and the checks of the program.** -/
def Intake.builtIn : Intake (List (Data × Data)) where
  read bytes := ((Yaml.read bytes).map Data.document).mapError Yaml.Failure.toDocument
  empty := []
  check entries := (Config.check (.mapping entries)).reported "AuditConfig"
  overrides environment := (Overrides.check environment).reported "AuditSettings"

end AuditTrail
