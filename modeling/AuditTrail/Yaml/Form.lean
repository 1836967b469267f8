import AuditTrail.Number.Decimal
import AuditTrail.Schema.Scalar
import AuditTrail.Text.Case
import AuditTrail.Text.Quoted
import AuditTrail.Text.Word
import AuditTrail.Yaml.Moment
import AuditTrail.Yaml.Source

/-!
# Yaml/Form — the type of a plain scalar, and the numbers it may be

`Kind.ofPlain` tells the type of a plain scalar from its form.  `readInteger` and `readFloat` read the
numbers: with underscores, in base 2, 8, 16 or 60.
-/

namespace AuditTrail.Yaml

open AuditTrail.Text AuditTrail.Number

/-- **The type of a node.**  `merge` is the key whose value gives further entries, `valueKey` the key of
a mapping that stands for a scalar. -/
inductive Kind
  | null | boolean | integer | float | moment | text | merge | valueKey | sequence | mapping
  deriving DecidableEq, Repr

namespace Kind

/-- The text before the names of the types. -/
def tagStart : String := "tag:yaml.org,2002:"

/-- The names of the types. -/
def names : List (String × Kind) := [
  ("null", null), ("bool", boolean), ("int", integer), ("float", float), ("timestamp", moment),
  ("str", text), ("merge", merge), ("value", valueKey), ("seq", sequence), ("map", mapping)]

/-- The type of a tag. -/
def ofTag? (tag : String) : Option Kind :=
  (names.find? fun (name, _) => tag == tagStart ++ name).map (·.2)

/-! ## Forms of plain scalars -/

/-- The words for truth values. -/
def booleanWords : List (String × Bool) :=
  [("yes", true), ("no", false), ("true", true), ("false", false), ("on", true), ("off", false)]

/-- A word in lower case, with a capital, or in capitals. -/
def spellings (word : String) : List String :=
  let cs := word.toList
  [word, String.ofList (cs.take 1 |>.map Char.toUpper) ++ String.ofList (cs.drop 1),
    String.ofList (cs.map Char.toUpper)]

/-- The text without a sign. -/
def unsigned (cs : List Char) : List Char := (takeSign cs).2

/-- An underscore, or a digit of some kind. -/
def orUnderscore (digit : Char → Bool) (c : Char) : Bool := c == '_' || digit c

/-- A digit below two. -/
def isBinaryDigit (c : Char) : Bool := c == '0' || c == '1'

/-- A digit below eight. -/
def isOctalDigit (c : Char) : Bool := '0' ≤ c && c ≤ '7'

/-- A hexadecimal digit. -/
def isHexDigit (c : Char) : Bool := (hexValue? c).isSome

/-- Every character is of a kind, and there is one. -/
def allOf (p : Char → Bool) (cs : List Char) : Bool := !cs.isEmpty && cs.all p

/-- A digit, then digits and underscores. -/
def isDigits (cs : List Char) : Bool :=
  isAsciiDigit (cs.headD '_') && cs.all (orUnderscore isAsciiDigit)

/-- A place in base 60: below sixty, in one digit or two. -/
def isSixtieth : List Char → Bool
  | [c] => isAsciiDigit c
  | [c, d] => '0' ≤ c && c ≤ '5' && isAsciiDigit d
  | _ => false

/-- Places in base 60 with colons between them, at least two. -/
def isBase60 (cs : List Char) : Bool :=
  match cs.splitOn ':' with
  | first :: second :: more => isDigits first && (second :: more).all isSixtieth
  | _ => false

/-- The form of an integer. -/
def isInteger (cs : List Char) : Bool :=
  match unsigned cs with
  | ['0'] => true
  | '0' :: 'b' :: digits => allOf (orUnderscore isBinaryDigit) digits
  | '0' :: 'x' :: digits => allOf (orUnderscore isHexDigit) digits
  | '0' :: digits => allOf (orUnderscore isOctalDigit) digits
  | body => isDigits body || isBase60 body

/-- The form of an exponent, which has a sign, or nothing. -/
def isExponent : List Char → Bool
  | [] => true
  | e :: sign :: digits => (e == 'e' || e == 'E') && (sign == '+' || sign == '-') && allOf isAsciiDigit digits
  | _ => false

/-- The form of a fraction and an exponent after the point. -/
def isFraction (cs : List Char) : Bool :=
  isExponent (cs.dropWhile (orUnderscore isAsciiDigit))

/-- The form of a floating point number, which has a point. -/
def isFloat (cs : List Char) : Bool :=
  let body := unsigned cs
  match body.span (· ≠ '.') with
  | ([], _ :: fraction) =>
    (spellings "inf").contains (String.ofList fraction) ||
      (body == cs && ((fraction == "nan".toList || fraction == "NaN".toList || fraction == "NAN".toList) ||
        (isAsciiDigit (fraction.headD '_') && isFraction fraction)))
  | (whole, _ :: fraction) =>
    (isDigits whole && isFraction fraction) ||
      (isBase60 whole && fraction.all (orUnderscore isAsciiDigit))
  | _ => false

/-- The text without a line end at its end, which does not count for the form. -/
def withoutLineEnd (text : List Char) : List Char :=
  if text.getLast? = some '\n' then text.dropLast else text

/-- **The type of a plain scalar.** -/
def ofPlain (text : List Char) : Kind :=
  let cs := withoutLineEnd text
  let word := String.ofList cs
  if booleanWords.any fun (name, _) => (spellings name).contains word then boolean
  else if isFloat cs then float
  else if isInteger cs then integer
  else if word == "<<" then merge
  else if word == "" || word == "~" || (spellings "null").contains word then null
  else if Moment.hasForm cs then moment
  else if word == "=" then valueKey
  else Kind.text

end Kind

/-! ## Numbers -/

/-- A failure of a conversion. -/
def invalid {α : Type} (reason : String) : Except Failure α := .error (.impossible .value reason)

/-- The value of digits in a base, of which there is at least one. -/
def digitsIn? (base : Nat) (cs : List Char) : Option Nat :=
  if cs.isEmpty then none
  else cs.foldlM (fun n c => do
    let d ← hexValue? c
    if d < base then some (base * n + d) else none) 0

/-- The letter that may stand after a zero before the digits of a base. -/
def baseLetter : Nat → Char
  | 2 => 'b'
  | 8 => 'o'
  | 16 => 'x'
  | _ => '0'

/-- The digits of a base, after its letter if it is there. -/
def withoutBase (base : Nat) : List Char → List Char
  | '0' :: letter :: rest =>
    if base ≠ 10 ∧ letter.toLower = baseLetter base then rest else '0' :: letter :: rest
  | cs => cs

/-- A decimal digit of another script as that of ASCII. -/
def plainDigit (c : Char) : Char :=
  match digitRanges.find? fun range => range.1 ≤ c.toNat && c.toNat ≤ range.2 with
  | some (first, _) => Char.ofNat (48 + (c.toNat - first) % 10)
  | none => c

/-- The text of a number in ASCII digits, without the spaces around it. -/
def numberText (cs : List Char) : List Char := Schema.trim (cs.map plainDigit)

/-- An integer in a base, perhaps between spaces and with a sign.  In base 10 it has only so many digits. -/
def integerIn (base : Nat) (cs : List Char) : Except Failure Int :=
  let (negative, body) := takeSign (numberText cs)
  let digits := withoutBase base body
  let length := (digits.takeWhile isAsciiDigit).length
  if base = 10 ∧ mostDigits < length then .error (.tooManyDigits length)
  else match digitsIn? base digits with
  | some n => .ok (if negative then -n else n)
  | none => invalid ("invalid literal for int() with base " ++ String.ofList (digitsOf base) ++ ": " ++
      quote (String.ofList cs))

/-- The places of a number in base 60. -/
def base60 (places : List Int) : Int := places.foldl (fun n place => 60 * n + place) 0

/-- The text of a number without underscores, with its sign. -/
def signed (text : String) : Except Failure (Bool × List Char) :=
  match text.toList.filter (· ≠ '_') with
  | [] => .error (.impossible .index "string index out of range")
  | cs => .ok (takeSign cs)

/-- The size of an integer. -/
def magnitude (cs : List Char) : Except Failure Int :=
  match cs with
  | [] => .error (.impossible .index "string index out of range")
  | '0' :: 'b' :: digits => integerIn 2 digits
  | '0' :: 'x' :: digits => integerIn 16 digits
  | ['0'] => .ok 0
  | '0' :: _ => integerIn 8 cs
  | _ => if cs.contains ':' then base60 <$> (cs.splitOn ':').mapM (integerIn 10) else integerIn 10 cs

/-- **Reading an integer.** -/
def readInteger (text : String) : Except Failure Int := do
  let (negative, cs) ← signed text
  let size ← magnitude cs
  return if negative then -size else size

/-- A number without its sign, perhaps between spaces. -/
def plainFloat (cs : List Char) : Except Failure Binary64 :=
  match readPlainNumber? (numberText cs) with
  | some x => .ok x
  | none => invalid ("could not convert string to float: " ++ quote (String.ofList cs))

/-- The sum of two finite numbers, rounded. -/
def add (x y : Binary64) : Binary64 :=
  match x.toRat?, y.toRat? with
  | some a, some b => .ofRat (a + b)
  | none, _ => x
  | _, none => y

/-- A number some times, rounded. -/
def scale (x : Binary64) (times : Nat) : Binary64 :=
  match x.toRat? with
  | some a => .ofRat (a * times)
  | none => x

/-- The places in base 60, the last first, each rounded into the sum. -/
def base60Float : (unit : Nat) → Binary64 → List Binary64 → Binary64
  | _, sum, [] => sum
  | unit, sum, place :: rest => base60Float (60 * unit) (add sum (scale place unit)) rest

/-- **Reading a floating point number.** -/
def readFloat (text : String) : Except Failure Binary64 := do
  let (negative, cs) ← signed text
  let body := lower cs
  let size ←
    if body = ".inf".toList then .ok (.infinite false)
    else if body = ".nan".toList then .ok .undefined
    else if body.contains ':' then
      base60Float 1 (.ofInt 0) <$> (List.reverse <$> (body.splitOn ':').mapM plainFloat)
    else plainFloat body
  return if negative then size.negate else size

end AuditTrail.Yaml
