/-!
# Yaml/Cursor — a place in a text

A `Cursor` is what is left of a text, with the line and the column where that starts.  The end of the
text reads as the character NUL, which no text holds.
-/

namespace AuditTrail.Yaml

/-! ## Classes of characters -/

/-- The characters that end a line. -/
def isBreak (c : Char) : Bool := c == '\n' || c == '\x85' || c == '\u2028' || c == '\u2029'

/-- A line ends here, or the text. -/
def isLineEnd (c : Char) : Bool := c == '\x00' || isBreak c

/-- A space or a tab. -/
def isSpacing (c : Char) : Bool := c == ' ' || c == '\t'

/-- Something that cannot go on here ends here. -/
def isGap (c : Char) : Bool := isSpacing c || isLineEnd c

/-- **A place in a text.** -/
structure Cursor where
  rest : List Char
  index : Nat
  line : Nat
  column : Nat
  deriving Repr

namespace Cursor

/-- The start of a text. -/
def ofText (text : List Char) : Cursor := ⟨text, 0, 0, 0⟩

/-- The character some places ahead. -/
def peek (c : Cursor) (ahead : Nat) : Char := c.rest.getD ahead '\x00'

/-- The character here. -/
def head (c : Cursor) : Char := c.rest.headD '\x00'

/-- The end of the text. -/
def atEnd (c : Cursor) : Bool := c.rest.isEmpty

/-- The mark of the byte order takes no column. -/
def byteOrderMark : Char := '\uFEFF'

/-- One character on. -/
def advance (c : Cursor) : Cursor :=
  match c.rest with
  | [] => c
  | head :: rest =>
    if isBreak head then ⟨rest, c.index + 1, c.line + 1, 0⟩
    else ⟨rest, c.index + 1, c.line, if head = byteOrderMark then c.column else c.column + 1⟩

/-- Some characters on. -/
def skip : Nat → Cursor → Cursor
  | 0, c => c
  | n + 1, c => skip n c.advance

/-- The longest run of characters of a kind, and what follows it. -/
def span (p : Char → Bool) (c : Cursor) : List Char × Cursor :=
  let run := c.rest.takeWhile p
  (run, skip run.length c)

/-- Past all characters of a kind. -/
def skipWhile (p : Char → Bool) (c : Cursor) : Cursor := (c.span p).2

/-- Past the spaces. -/
def skipSpaces (c : Cursor) : Cursor := c.skipWhile (· == ' ')

/-- Past the spaces, but not past a column. -/
def skipSpacesTo (column : Nat) (c : Cursor) : Cursor :=
  skip (min (column - c.column) (c.rest.takeWhile (· == ' ')).length) c

/-- The end of a line as it is kept in a scalar, and the next line. -/
def takeBreak? (c : Cursor) : Option (Char × Cursor) :=
  if isBreak c.head then some (if c.head = '\x85' then '\n' else c.head, c.advance) else none

/-- Three of a character, and then a gap. -/
def hasTriple (mark : Char) (c : Cursor) : Bool :=
  c.peek 0 == mark && c.peek 1 == mark && c.peek 2 == mark && isGap (c.peek 3)

/-- A mark that starts or ends a document. -/
def hasDocumentMark (c : Cursor) : Bool := c.hasTriple '-' || c.hasTriple '.'

end Cursor

end AuditTrail.Yaml
