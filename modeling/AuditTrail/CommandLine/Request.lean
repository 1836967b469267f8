import AuditTrail.CommandLine.Finding
import AuditTrail.Event.Basic

/-!
# CommandLine/Request — what is asked for on the command line

`Request.parse` reads the words after the name of the program: a configuration is to be validated, or
the line for a sample event is to be shown.
-/

namespace AuditTrail.CommandLine

/-- The name of the program. -/
def program : String := "dbaudit"

/-- The version of the program. -/
def version : String := "0.1.0"

/-- A command of the program. -/
inductive Command
  | validate | preview
  deriving DecidableEq, Repr

namespace Command

/-- Every command. -/
def all : List Command := [.validate, .preview]

/-- The name of a command. -/
def name : Command → String
  | .validate => "validate"
  | .preview => "preview"

/-- The command of a name. -/
def ofName? (name : String) : Option Command := all.find? (·.name == name)

end Command

/-! ## Switches -/

/-- Asking for help. -/
def helpSwitch : Switch := ⟨["-h", "--help"], .help, []⟩

/-- Asking for the version. -/
def versionSwitch : Switch := ⟨["--version"], .version, []⟩

/-- The answer is to be JSON. -/
def jsonSwitch : Switch := ⟨["--json"], .flag, []⟩

/-- The principal of the sample. -/
def userSwitch : Switch := ⟨["--user"], .value, []⟩

/-- The operation text of the sample. -/
def operationSwitch : Switch := ⟨["--operation"], .value, []⟩

/-- The resource of the sample. -/
def resourceSwitch : Switch := ⟨["--resource"], .value, []⟩

/-- A permission of the sample. -/
def permissionSwitch : Switch := ⟨["--permission"], .value, Permission.all.map (·.name)⟩

/-- The status of the sample. -/
def statusSwitch : Switch := ⟨["--status"], .value, Status.all.map (·.name)⟩

/-- The client address of the sample. -/
def clientSwitch : Switch := ⟨["--client"], .value, []⟩

/-- The sample is part of a batch. -/
def batchSwitch : Switch := ⟨["--batch"], .flag, []⟩

/-- The switches before a command. -/
def leadSwitches : List Switch := [helpSwitch, versionSwitch]

/-- The switches of a command. -/
def Command.switches : Command → List Switch
  | .validate => [helpSwitch, jsonSwitch]
  | .preview => [helpSwitch, userSwitch, operationSwitch, resourceSwitch, permissionSwitch, statusSwitch,
      clientSwitch, batchSwitch]

/-! ## Usage -/

/-- The commands to choose from. -/
def commandChoices : String := "\x7b" ++ ",".intercalate (Command.all.map (·.name)) ++ "\x7d"

/-- How the program, or one of its commands, is used. -/
def usage : Option Command → String
  | none => "usage: " ++ program ++ " [-h] [--version] " ++ commandChoices ++ " ..."
  | some .validate => "usage: " ++ program ++ " validate [-h] [--json] [config]"
  | some .preview => "usage: " ++ program ++ " preview [-h] [--user USER] [--operation OPERATION]"

/-- The program or a command of it, as messages show it. -/
def programName : Option Command → String
  | none => program
  | some command => program ++ " " ++ command.name

/-! ## Requests -/

/-- **A sample event** as it is asked for. -/
structure Sample where
  user : String
  operation : String
  resource : String
  permissions : List Permission
  status : Status
  client : String
  inBatch : Bool
  deriving DecidableEq, Repr

/-- **What is asked for.** -/
inductive Request
  | nothing
  | help (command : Option Command)
  | version
  | misuse (command : Option Command) (m : Misuse)
  | validate (config : Option String) (asJson : Bool)
  | preview (config : Option String) (sample : Sample)
  deriving DecidableEq, Repr

namespace Finding

/-- The values of a switch in their order. -/
def values (f : Finding) (switch : Switch) : List String :=
  (f.settings.filter (·.1 == switch)).map (·.2)

/-- The last value of a switch. -/
def value (f : Finding) (switch : Switch) (absent : String) : String :=
  (f.values switch).getLast?.getD absent

/-- The switch is set. -/
def has (f : Finding) (switch : Switch) : Bool := !(f.values switch).isEmpty

/-- The sample event. -/
def sample (f : Finding) : Sample where
  user := f.value userSwitch "cassandra"
  operation := f.value operationSwitch "SELECT * FROM ks.tbl"
  resource := f.value resourceSwitch "data/ks/tbl"
  permissions := (f.values permissionSwitch).filterMap Permission.ofName?
  status := (Status.ofName? (f.value statusSwitch Status.attempt.name)).getD .attempt
  client := f.value clientSwitch "127.0.0.1"
  inBatch := f.has batchSwitch

/-- The request that a command makes. -/
def request (f : Finding) : Command → Request
  | .validate => .validate f.operand (f.has jsonSwitch)
  | .preview => .preview f.operand f.sample

end Finding

namespace Request

/-- The request that reading ended with. -/
def ofStop (command : Option Command) : Stop → Request
  | .help => help command
  | .version => version
  | .misuse m => misuse command m

/-- The request that words make, for the program or for a command. -/
def settle (command : Option Command) (outcome : Except Stop Request) : Request :=
  match outcome with
  | .ok request => request
  | .error stop => ofStop command stop

/-- The words of a command line; a word that may be short for several names is a misuse. -/
def wordsOf (switches : List Switch) (texts : List String) : Except Stop (List Word) :=
  (classify switches texts).mapError .misuse

/-- A request, unless some words fit nowhere. -/
def withoutExtras (extras : List String) (request : Request) : Request :=
  if extras.isEmpty then request else misuse none (.unrecognized extras)

/-- The request of a command with its words. -/
def ofCommand (extras : List String) (command : Command) (texts : List String) : Request :=
  settle (some command) do
    let found ← Finding.ofWords true (← wordsOf command.switches texts)
    return withoutExtras (extras ++ found.extras) (found.request command)

/-- The request of a command by its name. -/
def ofLead (lead : Lead) : Request :=
  match lead.command with
  | none => withoutExtras lead.extras nothing
  | some (name, texts) =>
    match Command.ofName? name with
    | some command => ofCommand lead.extras command texts
    | none => misuse none (.notAChoice "command" name (Command.all.map (·.name)))

/-- **What a command line asks for.** -/
def parse (texts : List String) : Request :=
  settle none do
    let words ← wordsOf leadSwitches texts
    return ofLead (← Lead.ofWords words)

end Request

end AuditTrail.CommandLine
