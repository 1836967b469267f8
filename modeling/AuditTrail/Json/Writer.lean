import AuditTrail.Data
import AuditTrail.Number.Decimal
import AuditTrail.Text.Quoted

/-!
# Json/Writer — JSON on one line, in ASCII

`Json.write` puts `, ` between items and `: ` after keys.  Every character outside the printable
ASCII range is escaped, beyond U+FFFF as a surrogate pair, so a written value never holds a line
break.  `Json.writePretty` spreads lists and mappings over lines.
-/

namespace AuditTrail.Json

open AuditTrail.Text AuditTrail.Number

/-- The escape of one UTF-16 unit. -/
def unitEscape (unit : Nat) : List Char := '\\' :: 'u' :: hexDigits 4 unit

/-- The high surrogate of a code point above U+FFFF. -/
def highSurrogate (n : Nat) : Nat := 0xD800 + (n - 0x10000) / 0x400

/-- The low surrogate of a code point above U+FFFF. -/
def lowSurrogate (n : Nat) : Nat := 0xDC00 + (n - 0x10000) % 0x400

/-- One character of a string. -/
def escapeChar (c : Char) : List Char :=
  if c = '"' then ['\\', '"']
  else if c = '\\' then ['\\', '\\']
  else if c = '\n' then ['\\', 'n']
  else if c = '\r' then ['\\', 'r']
  else if c = '\t' then ['\\', 't']
  else if c = '\x08' then ['\\', 'b']
  else if c = '\x0c' then ['\\', 'f']
  else if 32 ≤ c.toNat ∧ c.toNat < 127 then [c]
  else if c.toNat < 0x10000 then unitEscape c.toNat
  else unitEscape (highSurrogate c.toNat) ++ unitEscape (lowSurrogate c.toNat)

/-- A string between its quotes. -/
def writeString (s : String) : List Char := '"' :: s.toList.flatMap escapeChar ++ ['"']

mutual

/-- **Writing a value.**  Moments are written as strings. -/
def writeChars : Data → List Char
  | .null => "null".toList
  | .boolean b => if b then "true".toList else "false".toList
  | .integer i => integerText i
  | .number x => x.shortest
  | .text s => writeString s
  | .moment s => writeString s
  | .list items => '[' :: writeItems items ++ [']']
  | .mapping entries => '\x7b' :: writeEntries entries ++ ['\x7d']

/-- The items of a list. -/
def writeItems : List Data → List Char
  | [] => []
  | [item] => writeChars item
  | item :: rest => writeChars item ++ ',' :: ' ' :: writeItems rest

/-- The entries of a mapping. -/
def writeEntries : List (Data × Data) → List Char
  | [] => []
  | [(key, value)] => writeChars key ++ ':' :: ' ' :: writeChars value
  | (key, value) :: rest =>
    writeChars key ++ ':' :: ' ' :: writeChars value ++ ',' :: ' ' :: writeEntries rest

end

/-- The text of a value. -/
def write (value : Data) : String := String.ofList (writeChars value)

/-! ## Over several lines -/

/-- A new line at a depth of nesting. -/
def newLine (depth : Nat) : List Char := '\n' :: List.replicate (2 * depth) ' '

mutual

/-- **Writing a value over several lines**, with every item of a list and every entry of a mapping on a
line of its own. -/
def writeLines (depth : Nat) : Data → List Char
  | .list [] => ['[', ']']
  | .list (item :: rest) =>
    '[' :: newLine (depth + 1) ++ writeItemLines (depth + 1) (item :: rest) ++ newLine depth ++ [']']
  | .mapping [] => ['\x7b', '\x7d']
  | .mapping (entry :: rest) =>
    '\x7b' :: newLine (depth + 1) ++ writeEntryLines (depth + 1) (entry :: rest) ++ newLine depth ++
      ['\x7d']
  | value => writeChars value

/-- The items of a list, each on its line. -/
def writeItemLines (depth : Nat) : List Data → List Char
  | [] => []
  | [item] => writeLines depth item
  | item :: rest => writeLines depth item ++ ',' :: newLine depth ++ writeItemLines depth rest

/-- The entries of a mapping, each on its line. -/
def writeEntryLines (depth : Nat) : List (Data × Data) → List Char
  | [] => []
  | [(key, value)] => writeChars key ++ ':' :: ' ' :: writeLines depth value
  | (key, value) :: rest =>
    writeChars key ++ ':' :: ' ' :: writeLines depth value ++ ',' :: newLine depth ++
      writeEntryLines depth rest

end

/-- The text of a value over several lines. -/
def writePretty (value : Data) : String := String.ofList (writeLines 0 value)

end AuditTrail.Json
