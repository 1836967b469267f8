import AuditTrail.Text.Ranges
import AuditTrail.Text.PrintableTable

/-!
# Text/Quoted — a text between quotes, with escapes for what cannot be printed

`quote` writes a text as messages show it: between single quotes, or between double quotes when the
text holds a single quote and no double one.  `quoteAscii` also escapes all that is not ASCII.
-/

namespace AuditTrail.Text

/-- The digit of a value below 16, lower case. -/
def hexDigit (n : Nat) : Char := if n < 10 then Char.ofNat (48 + n) else Char.ofNat (87 + n)

/-- The last `width` hexadecimal digits of a number, most significant first. -/
def hexDigits : (width : Nat) → Nat → List Char
  | 0, _ => []
  | width + 1, n => hexDigits width (n / 16) ++ [hexDigit (n % 16)]

/-- The hexadecimal digits of a number without leading zeros, at most `fuel` of them. -/
def hexNumber (n : Nat) : List Char :=
  if n < 16 then [hexDigit n] else hexDigits (n.log2 / 4 + 1) n

/-- The character has a printed form: it is no control, format, unassigned or separator character,
except the space. -/
def isPrintable (c : Char) : Bool :=
  let n := c.toNat
  if n < 127 then 32 ≤ n else !inRanges unprintable n

/-- The escape by code point: two, four or eight digits, as few as do. -/
def codeEscape (c : Char) : List Char :=
  let n := c.toNat
  if n < 0x100 then '\\' :: 'x' :: hexDigits 2 n
  else if n < 0x10000 then '\\' :: 'u' :: hexDigits 4 n
  else '\\' :: 'U' :: hexDigits 8 n

/-- One character inside quotes `mark`; with `ascii`, nothing above U+007E stays as it is. -/
def quotedChar (ascii : Bool) (mark c : Char) : List Char :=
  if c = mark ∨ c = '\\' then ['\\', c]
  else if c = '\n' then ['\\', 'n']
  else if c = '\r' then ['\\', 'r']
  else if c = '\t' then ['\\', 't']
  else if isPrintable c && (!ascii || c.toNat < 127) then [c]
  else codeEscape c

/-- Single quotes, unless the text holds one and no double quote. -/
def quoteMark (cs : List Char) : Char := if cs.contains '\'' && !cs.contains '"' then '"' else '\''

/-- The text between its quotes. -/
def quoteWith (ascii : Bool) (cs : List Char) : List Char :=
  let mark := quoteMark cs
  mark :: cs.flatMap (quotedChar ascii mark) ++ [mark]

/-- The quoted text. -/
def quote (s : String) : String := String.ofList (quoteWith false s.toList)

/-- The quoted text with every character that is not ASCII escaped. -/
def quoteAscii (s : String) : String := String.ofList (quoteWith true s.toList)

end AuditTrail.Text
