import AuditTrail.Yaml.Cursor

/-!
# Yaml/Plain — scalars without quotes

A plain scalar goes on until a colon before a gap, a comment, or, inside brackets, one of their marks.
It may go on over lines that are indented more than the block around it.
-/

namespace AuditTrail.Yaml.Plain

/-- The marks that end a plain scalar inside brackets. -/
def isFlowMark (c : Char) : Bool :=
  c == ',' || c == '?' || c == '[' || c == ']' || c == '\x7b' || c == '\x7d'

/-- A colon before this character ends a key. -/
def endsKey (inFlow : Bool) (next : Char) : Bool :=
  isGap next || (inFlow && isFlowMark next && next != '?')

/-- The characters of a plain scalar up to the next gap or mark. -/
def run (inFlow : Bool) : List Char → List Char
  | [] => []
  | c :: rest =>
    if isGap c || (c == ':' && endsKey inFlow (rest.headD '\x00')) || (inFlow && isFlowMark c) then []
    else c :: run inFlow rest

/-- **What stands between two words**: the text it stands for, whether it ends a line, and what
follows it. -/
structure Gap where
  text : List Char
  endsLine : Bool
  after : Cursor

/-- The ends of empty lines and what follows them; nothing if a document mark follows. -/
def breaks : (fuel : Nat) → Cursor → Option (List Char) × Cursor
  | 0, c => (none, c)
  | fuel + 1, c =>
    let indented := c.skipSpaces
    match indented.takeBreak? with
    | none => (some [], indented)
    | some (ended, next) =>
      if next.hasDocumentMark then (none, next)
      else
        let (more, last) := breaks fuel next
        (more.map (ended :: ·), last)

/-- The gap after a word. -/
def gap (c : Cursor) : Gap :=
  let (blanks, after) := c.span (· == ' ')
  match after.takeBreak? with
  | none => ⟨blanks, false, after⟩
  | some (ended, next) =>
    if next.hasDocumentMark then ⟨[], true, next⟩
    else match breaks (next.rest.length + 1) next with
    | (none, last) => ⟨[], true, last⟩
    | (some more, last) =>
      ⟨if ended ≠ '\n' then ended :: more else if more.isEmpty then [' '] else more, true, last⟩

/-- The words of a scalar and the gaps between them. -/
def words (inFlow : Bool) (indent : Nat) : (fuel : Nat) → Gap → Gap
  | 0, before => { before with text := [] }
  | fuel + 1, before =>
    let c := before.after
    let word := if c.head = '#' then [] else run inFlow c.rest
    if word.isEmpty then { before with text := [] }
    else
      let next := gap (Cursor.skip word.length c)
      let stops := next.text.isEmpty || next.after.head == '#' ||
        (!inFlow && decide (next.after.column < indent))
      let more := if stops then { next with text := [] } else words inFlow indent fuel next
      { more with text := before.text ++ word ++ more.text }

/-- **A plain scalar**: its text, whether the last line it read has ended, and what follows. -/
def read (inFlow : Bool) (indent : Nat) (c : Cursor) : Gap :=
  words inFlow indent (c.rest.length + 1) ⟨[], false, c⟩

end AuditTrail.Yaml.Plain
