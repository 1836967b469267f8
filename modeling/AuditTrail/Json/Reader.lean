import AuditTrail.Data
import AuditTrail.Number.Decimal
import AuditTrail.Text.Word

/-!
# Json/Reader — reading JSON

`Json.read?` reads a whole text as one value.  A number is an integer unless it has a fraction or an
exponent; escaped surrogate pairs become one character.
-/

namespace AuditTrail.Json

open AuditTrail.Text AuditTrail.Number

/-- The text after blanks. -/
def skipBlanks (cs : List Char) : List Char :=
  cs.dropWhile fun c => c == ' ' || c == '\n' || c == '\r' || c == '\t'

/-- The value of four hexadecimal digits. -/
def hexUnit? (a b c d : Char) : Option Nat := do
  return (((← hexValue? a) * 16 + (← hexValue? b)) * 16 + (← hexValue? c)) * 16 + (← hexValue? d)

/-- The character that a one letter escape stands for. -/
def simpleEscape? : Char → Option Char
  | '"' => some '"'
  | '\\' => some '\\'
  | '/' => some '/'
  | 'n' => some '\n'
  | 'r' => some '\r'
  | 't' => some '\t'
  | 'b' => some '\x08'
  | 'f' => some '\x0c'
  | _ => none

/-- The code points and surrogates of a string up to its closing quote, and what follows. -/
def readUnits : List Char → Option (List Nat × List Char)
  | [] => none
  | '"' :: rest => some ([], rest)
  | '\\' :: 'u' :: a :: b :: c :: d :: rest => do
    let unit ← hexUnit? a b c d
    let (units, after) ← readUnits rest
    return (unit :: units, after)
  | '\\' :: e :: rest => do
    let c ← simpleEscape? e
    let (units, after) ← readUnits rest
    return (c.toNat :: units, after)
  | c :: rest => do
    let (units, after) ← readUnits rest
    return (c.toNat :: units, after)

/-- The characters of units, a surrogate pair being one. -/
def joinUnits : List Nat → List Char
  | [] => []
  | high :: low :: rest =>
    if 0xD800 ≤ high ∧ high < 0xDC00 ∧ 0xDC00 ≤ low ∧ low < 0xE000 then
      Char.ofNat (0x10000 + (high - 0xD800) * 0x400 + (low - 0xDC00)) :: joinUnits rest
    else Char.ofNat high :: joinUnits (low :: rest)
  | [unit] => [Char.ofNat unit]

/-- The string after its opening quote. -/
def readString (cs : List Char) : Option (String × List Char) :=
  (readUnits cs).map fun (units, rest) => (String.ofList (joinUnits units), rest)

/-- The characters of numbers. -/
def isNumberChar (c : Char) : Bool :=
  isAsciiDigit c || c == '-' || c == '+' || c == '.' || c == 'e' || c == 'E'

/-- The number that a text is. -/
def numberOf? (cs : List Char) : Option Data :=
  let (negative, body) := match cs with
    | '-' :: rest => (true, rest)
    | _ => (false, cs)
  if body.all isAsciiDigit && !body.isEmpty then
    let n : Int := foldDigits 0 body
    some (.integer (if negative then -n else n))
  else (parseUnsigned? negative body).map .number

/-- The text after a word that it starts with. -/
def afterWord? (word : String) (cs : List Char) : Option (List Char) :=
  if word.toList.isPrefixOf cs then some (cs.drop word.length) else none

/-- A word for a value, or a number. -/
def readPlain (cs : List Char) : Option (Data × List Char) :=
  ((afterWord? "null" cs).map (Data.null, ·)).orElse fun _ =>
  ((afterWord? "true" cs).map (Data.boolean true, ·)).orElse fun _ =>
  ((afterWord? "false" cs).map (Data.boolean false, ·)).orElse fun _ =>
    let (number, rest) := cs.span isNumberChar
    (numberOf? number).map (·, rest)

mutual

/-- A value at the front of a text, and what follows; values nest at most `fuel` deep. -/
def readValue : (fuel : Nat) → List Char → Option (Data × List Char)
  | 0, _ => none
  | fuel + 1, cs =>
    match skipBlanks cs with
    | '"' :: rest => (readString rest).map fun (s, after) => (.text s, after)
    | '[' :: rest =>
      match skipBlanks rest with
      | ']' :: after => some (.list [], after)
      | _ => (readItems fuel rest).map fun (items, after) => (.list items, after)
    | '\x7b' :: rest =>
      match skipBlanks rest with
      | '\x7d' :: after => some (.mapping [], after)
      | _ => (readEntries fuel rest).map fun (entries, after) => (.mapping entries, after)
    | rest => readPlain rest

/-- The items of a list up to its closing bracket. -/
def readItems : (fuel : Nat) → List Char → Option (List Data × List Char)
  | 0, _ => none
  | fuel + 1, cs => do
    let (item, rest) ← readValue fuel cs
    match skipBlanks rest with
    | ',' :: more => do
      let (items, after) ← readItems fuel more
      return (item :: items, after)
    | ']' :: after => return ([item], after)
    | _ => none

/-- The entries of a mapping up to its closing brace. -/
def readEntries : (fuel : Nat) → List Char → Option (List (Data × Data) × List Char)
  | 0, _ => none
  | fuel + 1, cs =>
    match skipBlanks cs with
    | '"' :: rest => do
      let (key, rest) ← readString rest
      match skipBlanks rest with
      | ':' :: rest => do
        let (value, rest) ← readValue fuel rest
        match skipBlanks rest with
        | ',' :: more => do
          let (entries, after) ← readEntries fuel more
          return ((.text key, value) :: entries, after)
        | '\x7d' :: after => return ([(.text key, value)], after)
        | _ => none
      | _ => none
    | _ => none

end

/-- **Reading a whole text** as one value. -/
def read? (s : String) : Option Data := do
  let cs := s.toList
  let (value, rest) ← readValue (cs.length + 1) cs
  if (skipBlanks rest).isEmpty then some value else none

end AuditTrail.Json
