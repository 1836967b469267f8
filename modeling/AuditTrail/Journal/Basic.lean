import AuditTrail.Config.Basic
import AuditTrail.Files.Glob
import AuditTrail.Files.Tree
import AuditTrail.Journal.Record
import AuditTrail.Substitution

/-!
# Journal/Basic — a file of records that is rotated by its size

`emit` writes a record to the end of the active file.  When the file has reached its size it is put
away under a name with the time, the oldest files put away are removed, and a new file is opened.
`start` begins a journal and `close` ends it; the next record opens the file again.
-/

namespace AuditTrail

/-- How much a note matters. -/
inductive NoteLevel
  | debug | info | warning
  deriving DecidableEq, Repr

/-- What the journal tells about its own work. -/
structure Note where
  level : NoteLevel
  message : String
  deriving DecidableEq, Repr

/-- The files around a journal, each with its bytes. -/
abbrev Files := FileTree (List UInt8)

/-- **A journal and its surroundings**: the files, how often the clock was read, the notes so far, the
file that is open, and how large the journal takes it to be. -/
structure Desk where
  tree : Files
  readings : Nat
  notes : List Note
  handle : Option Location
  size : Nat
  deriving Repr

/-- The files with no journal at work. -/
def Desk.ofTree (tree : Files) : Desk := ⟨tree, 0, [], none, 0⟩

namespace Journal

/-- Work at a desk, which may fail; what was done before stays done. -/
abbrev Work := ExceptT Fault (StateM Desk)

/-- Reading the clock, which shows a moment for each reading. -/
def readClock (clock : Nat → Moment) : Work Moment := do
  let desk ← get
  set { desk with readings := desk.readings + 1 }
  return clock desk.readings

/-- Telling something. -/
def note (level : NoteLevel) (message : String) : Work Unit :=
  modify fun desk => { desk with notes := desk.notes ++ [⟨level, message⟩] }

/-- A refusal about some paths. -/
def refuse {α : Type} (cause : SystemCause) (paths : List Path) : Work α :=
  throw (.system ⟨cause, paths.map Path.text⟩)

/-- A refusal told as a failure to do something. -/
def telling {α : Type} (what : String) (work : Work α) : Work α :=
  tryCatch work fun
    | .system failure => throw (.emit (what ++ ": " ++ failure.message))
    | fault => throw fault

/-- Refusing a path that holds a null character. -/
def checkCharacters (path : Path) : Work Unit := do
  if path.text.toList.contains '\x00' then throw (.other .value "embedded null byte")

/-- Making the directories above the file. -/
def makeParents (path : Path) : Work Unit := do
  checkCharacters path.parent
  let desk ← get
  let (tree, failure) := FileTree.ensureDirectories path.parent path.parent.parts.length desk.tree
  set { desk with tree := tree }
  match failure with
  | some failure => throw (.system failure)
  | none => return ()

/-- Opening the file at its end, new if it is not there, and noticing its size. -/
def openAtEnd (path : Path) : Work Unit := do
  checkCharacters path
  let desk ← get
  match desk.tree.locate path with
  | .error cause => refuse cause [path]
  | .ok place =>
    match desk.tree.node? place with
    | some .directory => refuse .isDirectory [path]
    | some (.file content) => set { desk with handle := some place, size := content.length }
    | none => set { desk with tree := desk.tree.put place (.file []), handle := some place, size := 0 }

/-- **Opening the file** with the directories above it. -/
def openFile (path : Path) : Work Unit := do
  telling ("Failed to open audit log " ++ path.text) do
    makeParents path
    openAtEnd path
  note .info ("Audit log opened: " ++ path.text)

/-- A path whose last part is no name of its own cannot be renamed. -/
def hasOwnName (path : Path) : Bool := path.parts ≠ [] && path.parts.getLast? ≠ some ".."

/-- What renaming finds: the two locations, and the tree afterwards. -/
def renamed (tree : Files) (source target : Path) :
    Except SystemCause (Location × Location × Files) := do
  let a ← tree.locate source
  if !hasOwnName source then throw .busy
  if (tree.node? a).isNone then throw .notFound
  let b ← tree.locate target
  return (a, b, ← tree.rename a b)

/-- Renaming a file; if it is open it stays open under its new name. -/
def rename (source target : Path) : Work Unit := do
  let desk ← get
  match renamed desk.tree source target with
  | .error cause => refuse cause [source, target]
  | .ok (a, b, tree) =>
    set { desk with
      tree := tree, handle := desk.handle.map fun place => if place = a then b else place }

/-- Removing one file put away; a refusal is noted and goes no further. -/
def remove (path : Path) : Work Unit := do
  let desk ← get
  match desk.tree.unlink path with
  | .ok tree =>
    set { desk with tree := tree }
    note .debug ("Removed old audit log: " ++ path.text)
  | .error cause =>
    let failure : SystemFailure := ⟨cause, [path.text]⟩
    note .warning ("Failed to remove old audit log " ++ path.text ++ ": " ++ failure.message)

/-- Two stars stand next to each other. -/
def hasDoubleStar : List Char → Bool
  | '*' :: '*' :: _ => true
  | _ :: rest => hasDoubleStar rest
  | [] => false

/-- The files put away, the latest first. -/
def rotatedNames (tree : Files) (path : Path) : List String :=
  match tree.locate path.parent with
  | .ok place =>
    let glob := Glob.parse (rotatedPattern path)
    ((tree.names place).filter fun name => glob.accepts name.toList).mergeSort fun a b => !(a < b)
  | .error _ => []

/-- **Removing the oldest files put away**, so that with the active file there are no more than the
settings allow. -/
def prune (settings : JournalSettings) : Work Unit := do
  if hasDoubleStar (rotatedPattern settings.path) then
    throw (.other .value "Invalid pattern: '**' can only be an entire path component")
  let names := rotatedNames (← get).tree settings.path
  for name in names.drop (settings.maxFiles - 1).toNat do
    remove (settings.path.parent.child name)

/-- **Putting the active file away.** -/
def rotate (clock : Nat → Moment) (settings : JournalSettings) : Work Unit := do
  let target := rotatedPath settings.path (← readClock clock)
  rename settings.path target
  note .info ("Rotated audit log to: " ++ target.text)
  prune settings

/-- **Beginning a journal**: a file that is there may first be put away. -/
def start (clock : Nat → Moment) (settings : JournalSettings) : Work Unit := do
  if settings.rotateOnStartup then
    match (← get).tree.present settings.path with
    | .error cause => refuse cause [settings.path]
    | .ok there =>
      if there then telling "Failed to rotate audit log on startup" (rotate clock settings)
  openFile settings.path

/-- The active file has reached its size. -/
def isFull (settings : JournalSettings) (size : Nat) : Bool := settings.maxSize ≤ size

/-- Opening the file if none is open, and changing it if it is full. -/
def makeReady (clock : Nat → Moment) (settings : JournalSettings) : Work Unit := do
  let desk ← get
  if desk.handle.isNone then openFile settings.path
  else if isFull settings desk.size then
    set { desk with handle := none }
    rotate clock settings
    modify fun desk => { desk with size := 0 }
    openFile settings.path

/-- The tree with a line at the end of the open file, if one is open and still there. -/
def written (tree : Files) (handle : Option Location) (line : List UInt8) : Files :=
  match handle with
  | none => tree
  | some place =>
    match tree.content? place with
    | some content => tree.put place (.file (content ++ line))
    | none => tree

/-- Writing a line to the end of the open file. -/
def append (line : List UInt8) : Work Unit :=
  modify fun desk => { desk with
    tree := written desk.tree desk.handle line, size := desk.size + line.length }

/-- **Writing a record.**  The clock is read before the template is filled. -/
def emit (clock : Nat → Moment) (settings : JournalSettings) (template : String)
    (arguments : List String) : Work Unit := do
  let moment ← readClock clock
  match Substitution.substitute template arguments with
  | .error reason => throw (.emit reason)
  | .ok message =>
    telling "Failed to write audit record" (makeReady clock settings)
    append (recordLine moment message template arguments)

/-- **Closing the file.** -/
def close : Work Unit := modify fun desk => { desk with handle := none }

end Journal

end AuditTrail
