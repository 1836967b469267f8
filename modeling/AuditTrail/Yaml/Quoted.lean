import AuditTrail.Text.Word
import AuditTrail.Yaml.Cursor
import AuditTrail.Yaml.Source

/-!
# Yaml/Quoted — scalars in quotes

In single quotes, a quote is written twice.  In double quotes, a backslash starts an escape.  In both,
a line end between words becomes a space, and empty lines become line feeds.
-/

namespace AuditTrail.Yaml.Quoted

open AuditTrail.Text

/-- The line ends of empty lines, and the first text after them.  A scalar does not go on past the mark
of a document. -/
def breaks : (fuel : Nat) → Cursor → Except Failure (List Char × Cursor)
  | 0, _ => .error .malformed
  | fuel + 1, c =>
    if c.hasDocumentMark then .error .malformed
    else
      let after := c.skipWhile isSpacing
      match after.takeBreak? with
      | none => .ok ([], after)
      | some (ended, next) => (breaks fuel next).map fun (more, last) => (ended :: more, last)

/-- A run of spaces and tabs, or a line end with all that it folds. -/
def gap (c : Cursor) : Except Failure (List Char × Cursor) :=
  let (blanks, after) := c.span isSpacing
  match after.takeBreak? with
  | none => .ok (blanks, after)
  | some (ended, next) =>
    (breaks (next.rest.length + 1) next).map fun (more, last) =>
      (if ended ≠ '\n' then ended :: more else if more.isEmpty then [' '] else more, last)

/-- The character that an escape of one letter stands for. -/
def escape? : Char → Option Char
  | '0' => some '\x00'
  | 'a' => some '\x07'
  | 'b' => some '\x08'
  | 't' => some '\t'
  | '\t' => some '\t'
  | 'n' => some '\n'
  | 'v' => some '\x0B'
  | 'f' => some '\x0C'
  | 'r' => some '\r'
  | 'e' => some '\x1B'
  | ' ' => some ' '
  | '"' => some '"'
  | '\\' => some '\\'
  | '/' => some '/'
  | 'N' => some '\x85'
  | '_' => some '\xA0'
  | 'L' => some '\u2028'
  | 'P' => some '\u2029'
  | _ => none

/-- The number of digits after an escape that gives a code. -/
def codeLength? : Char → Option Nat
  | 'x' => some 2
  | 'u' => some 4
  | 'U' => some 8
  | _ => none

/-- The value of some hexadecimal digits. -/
def code? (digits : List Char) : Option Nat :=
  digits.foldlM (fun n d => (hexValue? d).map (16 * n + ·)) 0

/-- The code at the front of a text, of a given number of digits, and what follows. -/
def takeCode? (length : Nat) (c : Cursor) : Option (Nat × Cursor) :=
  if c.rest.length < length then none
  else (code? (c.rest.take length)).map (·, Cursor.skip length c)

/-- The low surrogate that is written next. -/
def lowSurrogate? (c : Cursor) : Option (Nat × Cursor) := do
  guard (c.head == '\\' && c.peek 1 == 'u')
  let (low, after) ← takeCode? 4 (Cursor.skip 2 c)
  guard (0xDC00 ≤ low && low < 0xE000)
  return (low, after)

/-- A character given by its code; two surrogates give one. -/
def codeEscape (length : Nat) (c : Cursor) : Except Failure (List Char × Cursor) :=
  match takeCode? length c with
  | none => .error .malformed
  | some (code, after) =>
    if 0x110000 ≤ code then .error (.impossible .value "chr() arg not in range(0x110000)")
    else if 0xD800 ≤ code ∧ code < 0xDC00 then
      match lowSurrogate? after with
      | some (low, last) => .ok ([Char.ofNat (0x10000 + (code - 0xD800) * 0x400 + (low - 0xDC00))], last)
      | none => .error .malformed
    else if code.isValidChar then .ok ([Char.ofNat code], after)
    else .error .malformed

/-- What follows a backslash.  An escaped line end leaves only the empty lines after it. -/
def escaped (c : Cursor) : Except Failure (List Char × Cursor) :=
  match escape? c.head, codeLength? c.head, c.takeBreak? with
  | some character, _, _ => .ok ([character], c.advance)
  | _, some length, _ => codeEscape length c.advance
  | _, _, some (_, next) => breaks (next.rest.length + 1) next
  | _, _, _ => .error .malformed

/-- The text up to the closing quote, and what follows it. -/
def body (quote : Char) : (fuel : Nat) → Cursor → Except Failure (List Char × Cursor)
  | 0, _ => .error .malformed
  | fuel + 1, c =>
    if c.atEnd then .error .malformed
    else if isGap c.head then do
      let (blanks, after) ← gap c
      let (more, last) ← body quote fuel after
      return (blanks ++ more, last)
    else if c.head = quote then
      if quote = '\'' ∧ c.peek 1 = '\'' then
        (body quote fuel (Cursor.skip 2 c)).map fun (more, last) => ('\'' :: more, last)
      else .ok ([], c.advance)
    else if quote = '"' ∧ c.head = '\\' then do
      let (characters, after) ← escaped c.advance
      let (more, last) ← body quote fuel after
      return (characters ++ more, last)
    else (body quote fuel c.advance).map fun (more, last) => (c.head :: more, last)

/-- **A scalar in quotes**, from its opening quote. -/
def read (c : Cursor) : Except Failure (List Char × Cursor) :=
  body c.head (c.rest.length + 1) c.advance

end AuditTrail.Yaml.Quoted
