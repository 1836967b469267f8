import AuditTrail.Text.Utf8
import AuditTrail.Text.Word
import AuditTrail.Yaml.Cursor
import AuditTrail.Yaml.Source
import AuditTrail.Yaml.Token

/-!
# Yaml/Label — anchors, tags and directives

An anchor names a node, a tag gives its type, and a directive at the start of a document tells how tags
are written.
-/

namespace AuditTrail.Yaml.Label

open AuditTrail.Text

/-- The characters of names. -/
def isNameChar (c : Char) : Bool := isAsciiDigit c || isAsciiLetter c || c == '-' || c == '_'

/-- The marks that may follow an anchor directly. -/
def endsAnchor (c : Char) : Bool := isGap c || "?:,]\x7d%@\x60".toList.contains c

/-- The name of an anchor or an alias, from its mark. -/
def readAnchor (c : Cursor) : Except Failure (String × Cursor) :=
  let (name, after) := c.advance.span isNameChar
  if !name.isEmpty && endsAnchor after.head then .ok (String.ofList name, after) else .error .malformed

/-! ## Tags -/

/-- The characters of the text of a tag; a percent sign starts an escaped byte. -/
def isTagChar (c : Char) : Bool :=
  isAsciiDigit c || isAsciiLetter c || "-;/?:@&=+$,_.!~*'()[]%".toList.contains c

/-- The bytes that are written as escapes. -/
def escapedBytes : List Char → Option (List UInt8 × List Char)
  | '%' :: a :: b :: rest => do
    let byte := 16 * (← hexValue? a) + (← hexValue? b)
    let (bytes, after) ← escapedBytes rest
    return (UInt8.ofNat byte :: bytes, after)
  | '%' :: _ => none
  | rest => some ([], rest)

/-- The text of a tag with its escapes read; a run of escapes is a text in bytes. -/
def unescape : (fuel : Nat) → List Char → Option (List Char)
  | 0, _ => none
  | fuel + 1, cs =>
    match cs with
    | [] => some []
    | '%' :: _ => do
      let (bytes, rest) ← escapedBytes cs
      let characters ← decodeUtf8 bytes
      return characters ++ (← unescape fuel rest)
    | c :: rest => (unescape fuel rest).map (c :: ·)

/-- The text of a tag. -/
def readTagText (c : Cursor) : Except Failure (String × Cursor) :=
  let (written, after) := c.span isTagChar
  match unescape (written.length + 1) written with
  | some (first :: more) => .ok (String.ofList (first :: more), after)
  | _ => .error .malformed

/-- A handle: an exclamation mark, or two with a name between them. -/
def readHandle (c : Cursor) : Except Failure (String × Cursor) :=
  if c.head ≠ '!' then .error .malformed
  else if c.peek 1 = ' ' then .ok ("!", c.advance)
  else
    let (name, after) := c.advance.span isNameChar
    if after.head = '!' then .ok (String.ofList ('!' :: name ++ ['!']), after.advance)
    else .error .malformed

/-- The tag has a second exclamation mark, so it has a handle. -/
def hasHandle (c : Cursor) : Bool :=
  (c.rest.drop 1).takeWhile (fun x => x != ' ' && !isLineEnd x) |>.contains '!'

/-- The handle and the text of a tag. -/
def readTagParts (c : Cursor) : Except Failure (Option String × String × Cursor) :=
  if c.peek 1 = '<' then do
    let (text, after) ← readTagText (Cursor.skip 2 c)
    if after.head = '>' then return (none, text, after.advance) else throw .malformed
  else if isGap (c.peek 1) then .ok (none, "!", c.advance)
  else do
    let (handle, after) ← if hasHandle c then readHandle c else .ok ("!", c.advance)
    let (text, last) ← readTagText after
    return (some handle, text, last)

/-- **A tag**, from its exclamation mark. -/
def readTag (c : Cursor) : Except Failure (Token × Cursor) := do
  let (handle, text, after) ← readTagParts c
  if after.head = ' ' ∨ isLineEnd after.head then return (.tag handle text, after) else throw .malformed

/-! ## Directives -/

/-- A decimal number. -/
def readNumber (c : Cursor) : Except Failure (Nat × Cursor) :=
  let (digits, after) := c.span isAsciiDigit
  if digits.isEmpty then .error .malformed
  else if mostDigits < digits.length then .error (.tooManyDigits digits.length)
  else .ok (digits.foldl (fun n d => 10 * n + (d.toNat - '0'.toNat)) 0, after)

/-- A part of a directive ends here. -/
def requireSpaceOrEnd (c : Cursor) : Except Failure Unit :=
  if c.head = ' ' ∨ isLineEnd c.head then .ok () else .error .malformed

/-- The version in a directive. -/
def readVersion (c : Cursor) : Except Failure (Directive × Cursor) := do
  let (major, afterMajor) ← readNumber c.skipSpaces
  if afterMajor.head ≠ '.' then throw .malformed
  let (_, after) ← readNumber afterMajor.advance
  requireSpaceOrEnd after
  return (.version major, after)

/-- A handle with the text it stands for. -/
def readHandleText (c : Cursor) : Except Failure (Directive × Cursor) := do
  let (handle, afterHandle) ← readHandle c.skipSpaces
  if afterHandle.head ≠ ' ' then throw .malformed
  let (text, after) ← readTagText afterHandle.skipSpaces
  requireSpaceOrEnd after
  return (.handle handle text, after)

/-- The content of a directive of a name. -/
def readContent (name : List Char) (c : Cursor) : Except Failure (Directive × Cursor) :=
  if name = "YAML".toList then readVersion c
  else if name = "TAG".toList then readHandleText c
  else .ok (.unknown, c.skipWhile (!isLineEnd ·))

/-- **A directive**, from its percent sign to the end of the line. -/
def readDirective (c : Cursor) : Except Failure (Token × Cursor) := do
  let (name, afterName) := c.advance.span isNameChar
  if name.isEmpty then throw .malformed
  requireSpaceOrEnd afterName
  let (content, after) ← readContent name afterName
  let last := after.skipSpaces
  let last := if last.head = '#' then last.skipWhile (!isLineEnd ·) else last
  if isLineEnd last.head then return (.directive content, ((last.takeBreak?).map (·.2)).getD last)
  else throw .malformed

end AuditTrail.Yaml.Label
