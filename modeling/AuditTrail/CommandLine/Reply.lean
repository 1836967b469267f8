import AuditTrail.CommandLine.Request
import AuditTrail.Config.Load
import AuditTrail.Json.Writer
import AuditTrail.Pipeline.Build

/-!
# CommandLine/Reply — what the program replies

`Request.reply` answers a request at a site.  A validation shows what the configuration makes of its
log format, a preview shows the line of a redacted sample event.
-/

namespace AuditTrail.CommandLine

/-- **Why a command fails.** -/
inductive CommandFailure
  | load (failure : LoadFailure)
  | resource (error : ResourceError)
  | fault (cause : Fault)
  deriving DecidableEq, Repr

/-- **The text of a failure that the program reports**; any other failure ends it. -/
def CommandFailure.report? : CommandFailure → Option String
  | .load failure => failure.report?
  | .resource error => some error.message
  | .fault cause => if cause.isOfAudit then some cause.message else none

/-- **A reply**: a text, the usage with an exit code, a misuse, or a failure. -/
inductive Reply
  | printed (text : String)
  | usage (text : String) (code : Nat)
  | misused (text : String)
  | failed (failure : CommandFailure)
  deriving DecidableEq, Repr

/-- **What surrounds the program**: what configurations are read with, where files are, the variables of the
environment, what log formats are compiled on, the time in milliseconds since 1970, and an identifier for a
batch. -/
structure Surroundings (Mapping : Type) where
  intake : Intake Mapping
  site : Site
  environment : Environment
  platform : Platform
  now : Int
  batch : Uuid

variable {Mapping : Type}

/-- The configuration with its log format, compiled for a logger. -/
def loadFormat (s : Surroundings Mapping) (path : Option String) :
    Except CommandFailure (Config × Template) := do
  let config ← (Config.load s.intake s.site s.environment (path.map Path.parse)).mapError .load
  let template ← (config.line.compile s.platform (.logging .default) none).mapError .fault
  return (config, template)

/-- What a valid configuration makes of its log format, in words. -/
def validationText (config : Config) (template : Template) : String :=
  let fields := if template.fieldNames.isEmpty then "-" else ", ".intercalate template.fieldNames
  "Configuration OK (filter=" ++ config.filter.name ++ ", backend=" ++ config.backend.name ++ ")\n" ++
    "Template: " ++ template.template ++ "\nFields:   " ++ fields ++ "\n"

/-- What a valid configuration makes of its log format, as JSON. -/
def validationJson (config : Config) (template : Template) : String :=
  Json.writePretty (.ofFields [
    ("valid", .boolean true), ("filter", .text config.filter.name),
    ("backend", .text config.backend.name), ("template", .text template.template),
    ("fields", .list (template.fieldNames.map .text))]) ++ "\n"

/-- The event of a sample. -/
def Sample.event (sample : Sample) (s : Surroundings Mapping) (resource : Resource) : Event where
  principal := sample.user
  clientAddress := some sample.client
  clientPort := none
  coordinatorAddress := none
  batchId := if sample.inBatch then some s.batch else none
  status := sample.status
  operation := some sample.operation
  operationKnown := true
  nakedOperation := none
  permissions := sample.permissions.eraseDups
  resource := resource
  timestamp := s.now

/-- **Validating a configuration.** -/
def validate (s : Surroundings Mapping) (path : Option String) (asJson : Bool) :
    Except CommandFailure String := do
  let (config, template) ← loadFormat s path
  return if asJson then validationJson config template else validationText config template

/-- **The line of a sample event**, redacted first. -/
def preview (s : Surroundings Mapping) (path : Option String) (sample : Sample) :
    Except CommandFailure String := do
  let (config, template) ← loadFormat s path
  let resource ← (Resource.parse sample.resource).mapError .resource
  let line := do template.line (← config.redactor.redact (sample.event s resource))
  return (← line.mapError .fault) ++ "\n"

/-- The reply that the outcome of a command makes. -/
def Reply.ofOutcome : Except CommandFailure String → Reply
  | .ok text => printed text
  | .error failure => failed failure

/-- **The reply to a request.** -/
def Request.reply (s : Surroundings Mapping) : Request → Reply
  | .nothing => .usage (CommandLine.usage none) 1
  | .help command => .usage (CommandLine.usage command) 0
  | .version => .printed (program ++ " " ++ CommandLine.version ++ "\n")
  | .misuse command m => .misused (programName command ++ ": error: " ++ m.message)
  | .validate path asJson => .ofOutcome (CommandLine.validate s path asJson)
  | .preview path sample => .ofOutcome (CommandLine.preview s path sample)

end AuditTrail.CommandLine
