/-!
# Files/Path — paths as lists of parts

`Path.parse` reads a path; empty and `.` parts drop, `..` stays.  `Path.text` writes it, the empty
relative path as `.`.  The `stem` and the `suffix` of a name are what stands before its last dot, and
the rest.
-/

namespace AuditTrail

/-- Where a path starts. -/
inductive PathStart
  | relative | slash | twoSlashes
  deriving DecidableEq, Repr

/-- **A path.** -/
structure Path where
  start : PathStart
  parts : List String
  deriving DecidableEq, Repr

namespace Path

/-- The start of a path; exactly two leading slashes are kept apart from one or more than two. -/
def startOf : List Char → PathStart
  | '/' :: '/' :: '/' :: _ => .slash
  | '/' :: '/' :: _ => .twoSlashes
  | '/' :: _ => .slash
  | _ => .relative

/-- **Reading a path.** -/
def parse (s : String) : Path :=
  let parts := (s.toList.splitOn '/').filter fun part => part ≠ [] && part ≠ ['.']
  ⟨startOf s.toList, parts.map String.ofList⟩

/-- What a path starts with when it is written. -/
def PathStart.text : PathStart → String
  | .relative => ""
  | .slash => "/"
  | .twoSlashes => "//"

/-- **Writing a path.** -/
def text (p : Path) : String :=
  if p.start = .relative ∧ p.parts = [] then "." else PathStart.text p.start ++ "/".intercalate p.parts

/-- The path without its last part. -/
def parent (p : Path) : Path := { p with parts := p.parts.dropLast }

/-- The last part, empty if there is none. -/
def name (p : Path) : String := p.parts.getLastD ""

/-- The path of a name inside a directory. -/
def child (p : Path) (name : String) : Path := { p with parts := p.parts ++ [name] }

/-- A path taken from a directory: an absolute one stays. -/
def under (directory p : Path) : Path :=
  if p.start = .relative then { directory with parts := directory.parts ++ p.parts } else p

/-- A name cut before its last dot, unless that dot is the first or the last character. -/
def splitName (name : List Char) : List Char × List Char :=
  let after := (name.reverse.takeWhile (· ≠ '.')).reverse
  let before := name.take (name.length - after.length - 1)
  if after.isEmpty || before.isEmpty || after.length = name.length then (name, [])
  else (before, '.' :: after)

/-- The name without its suffix. -/
def stem (p : Path) : String := String.ofList (splitName p.name.toList).1

/-- The last dot of the name and what follows it. -/
def suffix (p : Path) : String := String.ofList (splitName p.name.toList).2

end Path

end AuditTrail
