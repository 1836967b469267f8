import AuditTrail.Files.Path
import AuditTrail.Event.Basic
import AuditTrail.Whitelist.Cache

/-!
# Config/Basic — the configuration of an audit trail

A `Config` chooses the whitelist sources, the moment of logging, the form of the log line and where
records go.  `Config.default` holds where nothing is configured.
-/

namespace AuditTrail

open AuditTrail.Number

/-- Which whitelist sources are asked. -/
inductive FilterChoice
  | none | static | role | staticAndRole
  deriving DecidableEq, Repr

namespace FilterChoice

/-- Every choice. -/
def all : List FilterChoice := [.none, .static, .role, .staticAndRole]

/-- The name of a choice. -/
def name : FilterChoice → String
  | .none => "none"
  | .static => "static"
  | .role => "role"
  | .staticAndRole => "static_and_role"

/-- The choice of a name. -/
def ofName? (name : String) : Option FilterChoice := all.find? (·.name == name)

end FilterChoice

/-- Where records go. -/
inductive BackendChoice
  | logging | jsonl
  deriving DecidableEq, Repr

namespace BackendChoice

/-- Every choice. -/
def all : List BackendChoice := [.logging, .jsonl]

/-- The name of a choice. -/
def name : BackendChoice → String
  | .logging => "logging"
  | .jsonl => "jsonl"

/-- The choice of a name. -/
def ofName? (name : String) : Option BackendChoice := all.find? (·.name == name)

end BackendChoice

/-- **When a call is logged**: before it runs, or after. -/
inductive Timing
  | pre | post
  deriving DecidableEq, Repr

namespace Timing

/-- Both moments. -/
def all : List Timing := [.pre, .post]

/-- The name of a moment. -/
def name : Timing → String
  | .pre => "pre"
  | .post => "post"

/-- The moment of a name. -/
def ofName? (name : String) : Option Timing := all.find? (·.name == name)

/-- An event of this status is to be logged: failures always, attempts before and successes after. -/
def logs : Timing → Status → Bool
  | _, .failed => true
  | .pre, status => status == .attempt
  | .post, status => status == .succeeded

/-- A failed batch is to be summed up. -/
def sumsUpFailedBatches (timing : Timing) : Bool := timing == .pre

end Timing

/-- **How a log line is written**: the format with its anchor and the escape of the text around the
fields, each of which may be left to the backend, and how timestamps are shown. -/
structure LineSettings where
  format : String
  anchor : Option String
  escape : Option (String × String)
  timeFormat : Option String
  timeZone : Option String
  deriving DecidableEq, Repr

/-- **How a journal file is kept**: its path, the size from which it is rotated, how many files there
are at most, and whether a file found at the start is rotated. -/
structure JournalSettings where
  path : Path
  maxSize : Int
  maxFiles : Int
  rotateOnStartup : Bool
  deriving DecidableEq, Repr

/-- **The whole configuration.** -/
structure Config where
  filter : FilterChoice
  whitelist : List String
  redactUnknown : Bool
  suppressPrepare : Bool
  timing : Timing
  cache : CacheLimits
  line : LineSettings
  backend : BackendChoice
  journal : JournalSettings
  deriving Repr

/-- The format that shows who did what, from where, with which outcome. -/
def LineSettings.defaultFormat : String :=
  "client:'$\x7bCLIENT_IP\x7d'|user:'$\x7bUSER\x7d'\x7b?|batchId:'$\x7bBATCH_ID\x7d'?\x7d" ++
    "|status:'$\x7bSTATUS\x7d'|operation:'$\x7bOPERATION\x7d'"

/-- The default format, with the anchor and the escape of the backend. -/
def LineSettings.default : LineSettings := ⟨defaultFormat, none, none, none, none⟩

/-- Ten files of a hundred mebibytes. -/
def JournalSettings.default : JournalSettings :=
  ⟨Path.parse "logs/audit.jsonl", 100 * 1024 * 1024, 10, false⟩

/-- The configuration where nothing is configured. -/
def Config.default : Config :=
  { filter := .none, whitelist := [], redactUnknown := true, suppressPrepare := false, timing := .pre,
    cache := .default, line := .default, backend := .logging, journal := .default }

end AuditTrail
