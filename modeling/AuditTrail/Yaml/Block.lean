import AuditTrail.Yaml.Cursor
import AuditTrail.Yaml.Source

/-!
# Yaml/Block — scalars of whole lines

A block scalar starts with `|` or `>` and holds the lines below that are indented enough.  After `>` a
line end between lines that do not start with a blank becomes a space.  The header may fix the
indentation, and tells whether the line ends after the last line are kept.
-/

namespace AuditTrail.Yaml.Block

/-- **The header**: the line ends at the end are dropped (`some false`), kept (`some true`), or only the
first is kept, and the indentation may be given. -/
structure Header where
  keep : Option Bool
  indent : Option Nat

/-- The indicator for the line ends at the end. -/
def takeKeep (c : Cursor) : Option Bool × Cursor :=
  if c.head = '+' then (some true, c.advance)
  else if c.head = '-' then (some false, c.advance)
  else (none, c)

/-- The indicator for the indentation, from 1 to 9. -/
def takeIndent (c : Cursor) : Except Failure (Option Nat × Cursor) :=
  if c.head = '0' then .error .malformed
  else if c.head.isDigit then .ok (some (c.head.toNat - '0'.toNat), c.advance)
  else .ok (none, c)

/-- The rest of a line that holds nothing but a comment. -/
def takeEmptyRest (c : Cursor) : Except Failure Cursor :=
  let after := c.skipSpaces
  let after := if after.head = '#' then after.skipWhile (!isLineEnd ·) else after
  if after.atEnd then .ok after
  else match after.takeBreak? with
  | some (_, next) => .ok next
  | none => .error .malformed

/-- The header, with its two indicators in either order. -/
def header (c : Cursor) : Except Failure (Header × Cursor) := do
  let (keep, afterKeep) := takeKeep c
  let (indent, afterIndent) ← takeIndent afterKeep
  let (keep, after) := if keep.isNone && indent.isSome then takeKeep afterIndent else (keep, afterIndent)
  if after.head = ' ' ∨ isLineEnd after.head then
    return (⟨keep, indent⟩, ← takeEmptyRest after)
  else throw .malformed

/-- The empty lines at the start, the widest column among them, and what follows. -/
def leading : (fuel : Nat) → Cursor → List Char × Nat × Cursor
  | 0, c => ([], 0, c)
  | fuel + 1, c =>
    let indented := c.skipSpaces
    match indented.takeBreak? with
    | none => ([], indented.column, indented)
    | some (ended, next) =>
      let (more, widest, last) := leading fuel next
      (ended :: more, max indented.column widest, last)

/-- The empty lines before the next line of the scalar. -/
def breaks (indent : Nat) : (fuel : Nat) → Cursor → List Char × Cursor
  | 0, c => ([], c)
  | fuel + 1, c =>
    let indented := c.skipSpacesTo indent
    match indented.takeBreak? with
    | none => ([], indented)
    | some (ended, next) =>
      let (more, last) := breaks indent fuel next
      (ended :: more, last)

/-- **The lines of a scalar**: the text up to the end of the last line, that line end, the empty lines
after it, and what follows. -/
structure Lines where
  text : List Char
  ended : List Char
  trailing : List Char
  after : Cursor

/-- A line of the scalar starts here. -/
def goesOn (indent : Nat) (c : Cursor) : Bool := c.column == indent && !c.atEnd

/-- The lines from one that belongs to the scalar on. -/
def lines (folded : Bool) (indent : Nat) : (fuel : Nat) → Cursor → Lines
  | 0, c => ⟨[], [], [], c⟩
  | fuel + 1, c =>
    let (line, atBreak) := c.span (!isLineEnd ·)
    let (ended, next) := match atBreak.takeBreak? with
      | some (character, next) => ([character], next)
      | none => ([], atBreak)
    let (empty, after) := breaks indent (next.rest.length + 1) next
    if goesOn indent after then
      let folds := folded && ended == ['\n'] && !isSpacing c.head && !isSpacing after.head
      let joint := if folds then (if empty.isEmpty then [' '] else []) else ended
      let more := lines folded indent fuel after
      { more with text := line ++ joint ++ empty ++ more.text }
    else ⟨line, ended, empty, after⟩

/-- **A block scalar**, from its `|` or `>`, in a block whose scalars are indented by at least
`least`. -/
def read (least : Nat) (c : Cursor) : Except Failure (List Char × Cursor) := do
  let folded := c.head == '>'
  let (head, body) ← header c.advance
  let fuel := body.rest.length + 1
  let (indent, empty, start) := match head.indent with
    | some given =>
      let indent := least + given - 1
      let (empty, start) := breaks indent fuel body
      (indent, empty, start)
    | none =>
      let (empty, widest, start) := leading fuel body
      (max least widest, empty, start)
  let content :=
    if goesOn indent start then
      let content := lines folded indent fuel start
      { content with text := empty ++ content.text }
    else ⟨[], [], empty, start⟩
  let text := match head.keep with
    | some false => content.text
    | none => content.text ++ content.ended
    | some true => content.text ++ content.ended ++ content.trailing
  return (text, content.after)

end AuditTrail.Yaml.Block
