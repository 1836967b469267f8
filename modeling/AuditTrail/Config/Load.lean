import AuditTrail.Config.Overrides
import AuditTrail.Fault

/-!
# Config/Load — the configuration of a site

```
path given  ─┐
environment ─┼▶ file ─▶ document ─▶ Config ─▶ overrides ─▶ Config
defaults    ─┘
```

`Config.load` takes the first of these that names a file, and the built-in configuration if none does.
A file that is chosen but cannot be used is a failure; no other place is tried then.  What the operating
system answers about paths is a `Site`, and what documents and settings are read with is an `Intake`.
-/

namespace AuditTrail

/-! ## Files -/

/-- What stands at a path. -/
inductive Standing
  | file | other
  deriving DecidableEq, Repr

/-- **What the operating system answers about paths**, from a working directory: the home directory of a
user, or the own one for no name; the path without links; what stands at a path; and the bytes of a file. -/
structure Site where
  home : (user : String) → Option Path
  resolve : Path → Except Fault Path
  look : Path → Except SystemFailure Standing
  read : Path → Except SystemFailure (List UInt8)

/-- The cause says that nothing is at the path. -/
def SystemCause.isAbsence (cause : SystemCause) : Bool := [2, 9, 20, 40].contains cause.number

namespace Site

/-- A path with the home directory in place of a tilde. -/
def expand (site : Site) (path : Path) : Except Fault Path :=
  match path.start, path.parts with
  | .relative, first :: rest =>
    match first.toList with
    | '~' :: user =>
      match site.home (String.ofList user) with
      | some home => .ok { home with parts := home.parts ++ rest }
      | none => .error (.other .runtime "Could not determine home directory.")
    | _ => .ok path
  | _, _ => .ok path

/-- **What is seen at a path.**  A refusal to look is passed on, unless it says that nothing is there. -/
def seen (site : Site) (path : Path) : Except Fault (Option Standing) :=
  match site.look path with
  | .ok standing => .ok (some standing)
  | .error failure => if failure.cause.isAbsence then .ok none else .error (.system failure)

/-- Where a configuration is looked for when no file is named. -/
def defaultPaths : List Path :=
  ["./dbaudit.yaml", "./config/dbaudit.yaml", "~/.config/dbaudit/audit.yaml"].map Path.parse

/-- **The first of some paths at which something is seen**, expanded. -/
def firstSeen (site : Site) : List Path → Except Fault (Option Path)
  | [] => .ok none
  | place :: rest => do
    let path ← site.expand place
    match ← site.seen path with
    | some _ => return some path
    | none => site.firstSeen rest

/-- Parts without `..`, each of which takes back the part before it. -/
def withoutParents (parts : List String) : List String :=
  parts.foldl (fun sofar part => if part = ".." then sofar.dropLast else sofar ++ [part]) []

/-- **A site without links**: its working directory, its home directory, and what is at the paths from the
root of the system, with the contents of the files. -/
def plain (directory home : Path) (content : Path → Except SystemCause (Option (List UInt8))) : Site where
  home user := if user = "" then some home else none
  resolve path :=
    let whole := directory.under path
    if whole.parts.any fun part => part.toList.contains '\x00' then
      .error (.other .value "lstat: embedded null character in path")
    else .ok { whole with parts := withoutParents whole.parts }
  look path :=
    match content (directory.under path) with
    | .ok (some _) => .ok .file
    | .ok none => .ok .other
    | .error cause => .error ⟨cause, [path.text]⟩
  read path :=
    match content (directory.under path) with
    | .ok (some bytes) => .ok bytes
    | .ok none => .error ⟨.isDirectory, [path.text]⟩
    | .error cause => .error ⟨cause, [path.text]⟩

end Site

/-! ## Documents and settings -/

/-- **What is in a file**: nothing, a mapping, or something else. -/
inductive Document (Mapping : Type)
  | nothing
  | mapping (entries : Mapping)
  | other

/-- **Why a file is no document.** -/
inductive DocumentFailure
  /-- The text is malformed. -/
  | malformed (report : String)
  /-- Any other failure of reading it. -/
  | raised (fault : Fault)
  deriving DecidableEq, Repr

/-- What is wrong with settings, and the report of it. -/
structure Invalid where
  issues : List Issue
  report : String
  deriving DecidableEq, Repr

/-- **What documents and settings are read with**: the reader for the bytes of a file, the check of the
mapping in it, and the check of the environment. -/
structure Intake (Mapping : Type) where
  read : List UInt8 → Except DocumentFailure (Document Mapping)
  empty : Mapping
  check : Mapping → Except Invalid Config
  overrides : Environment → Except Invalid Overrides

/-! ## Configurations -/

/-- **Why there is no configuration.** -/
inductive LoadFailure
  /-- There is no file at a path. -/
  | missing (path : Path)
  /-- The file cannot be read. -/
  | unreadable (failure : SystemFailure)
  /-- The file is no document. -/
  | malformed (report : String)
  /-- The document is no mapping. -/
  | noMapping
  /-- The document of a file is no configuration. -/
  | invalid (path : Path) (defects : Invalid)
  /-- The environment sets what cannot be. -/
  | overrides (defects : Invalid)
  /-- Any other failure. -/
  | raised (fault : Fault)
  deriving DecidableEq, Repr

namespace LoadFailure

/-- The failure of a document.  What the operating system refuses is told as such. -/
def ofDocument : DocumentFailure → LoadFailure
  | .malformed report => malformed report
  | .raised (.system failure) => unreadable failure
  | .raised fault => raised fault

/-- **The text of a failure that is reported as one of the configuration.** -/
def report? : LoadFailure → Option String
  | missing path => some ("Audit configuration file not found: " ++ path.text)
  | unreadable failure => some ("Cannot read audit configuration: " ++ failure.message)
  | malformed report => some ("Invalid YAML in audit configuration: " ++ report)
  | noMapping => some "Audit configuration must contain a YAML mapping"
  | invalid path defects =>
    some ("Invalid audit configuration in " ++ path.text ++ ": " ++ defects.report)
  | _ => none

end LoadFailure

namespace Config

variable {Mapping : Type}

/-- The configuration of a document; an empty one is an empty mapping. -/
def ofDocument (intake : Intake Mapping) (path : Path) (document : Document Mapping) :
    Except LoadFailure Config :=
  match document with
  | .nothing => (intake.check intake.empty).mapError (.invalid path)
  | .mapping entries => (intake.check entries).mapError (.invalid path)
  | .other => .error .noMapping

/-- **The configuration of a file.** -/
def loadFile (intake : Intake Mapping) (site : Site) (path : Path) : Except LoadFailure Config := do
  let whole ← (site.expand path >>= site.resolve).mapError .raised
  let standing ← (site.seen whole).mapError .raised
  if standing ≠ some .file then throw (.missing whole)
  let bytes ← (site.read whole).mapError .unreadable
  let document ← (intake.read bytes).mapError .ofDocument
  ofDocument intake whole document

/-- The configuration of a file, or else the built-in one. -/
def ofSource (intake : Intake Mapping) (site : Site) : Option Path → Except LoadFailure Config
  | some path => loadFile intake site path
  | none => .ok default

/-- The file that is named, or else the first default path at which something is seen. -/
def sourceOf (site : Site) : (named : Option Path) → Except LoadFailure (Option Path)
  | some path => .ok (some path)
  | none => (site.firstSeen Site.defaultPaths).mapError .raised

/-- **The configuration of a site**, from a given path or else from where the environment says. -/
def load (intake : Intake Mapping) (site : Site) (environment : Environment) (given : Option Path) :
    Except LoadFailure Config := do
  let overrides ← (intake.overrides environment).mapError .overrides
  let source ← sourceOf site (given.or overrides.path)
  return overrides.apply (← ofSource intake site source)

end Config

end AuditTrail
