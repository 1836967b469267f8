import AuditTrail.Data
import AuditTrail.Files.Path
import AuditTrail.Event.Uuid
import AuditTrail.Number.Decimal
import AuditTrail.Schema.Issue
import AuditTrail.Text.Blank
import AuditTrail.Text.Case

/-!
# Schema/Scalar — checks of single values

Each check takes a value of the fitting type and those of other types that plainly stand for one:
the text of a number, `1` for true, a number without fraction for an integer.
-/

namespace AuditTrail.Schema

open AuditTrail.Number AuditTrail.Text

/-! ## Numbers among spaces -/

/-- The blanks that may stand around a number; the information separators are none of them. -/
def isSpace (c : Char) : Bool := isBlank c && !(28 ≤ c.toNat && c.toNat ≤ 31)

/-- The text of a number without the spaces around it. -/
def trim (cs : List Char) : List Char :=
  ((cs.dropWhile isSpace).reverse.dropWhile isSpace).reverse

/-! ## Integers -/

/-- Digits with single underscores between them. -/
def digitGroups? (cs : List Char) : Option (List Char) :=
  let groups := cs.splitOn '_'
  if groups.all fun group => !group.isEmpty && group.all isAsciiDigit then some groups.flatten else none

/-- The text of an integer: spaces, a sign, digits, and a fraction of zeros. -/
def readInteger? (s : String) : Option Int :=
  let (negative, rest) := takeSign (trim s.toList)
  let (whole, fraction) := rest.span (· ≠ '.')
  let fractionFits := match fraction with
    | [] => true
    | _ :: zeros => !zeros.isEmpty && zeros.all (· == '0')
  if fractionFits then
    (digitGroups? whole).map fun digits =>
      let n : Int := foldDigits 0 digits
      if negative then -n else n
  else none

/-- **An integer.** -/
def integer : Data → Checked Int
  | .integer i => .valid i
  | .boolean b => .valid (if b then 1 else 0)
  | .number (.finite negative significand exponent) =>
    match (Binary64.finite negative significand exponent).toInt? with
    | some i => .valid i
    | none => .defect .intFromFloat
  | .number _ => .defect .finiteNumber
  | .text s => match readInteger? s with
    | some i => .valid i
    | none => .defect .intParsing
  | _ => .defect .intType

/-- An integer that is not below a bound. -/
def integerFrom (bound : Int) (value : Data) : Checked Int :=
  (integer value).andThen fun i => if i < bound then .defect .tooSmall else .valid i

/-! ## Floating point numbers -/

/-- Underscores may stand singly inside a text; the text without them. -/
def withoutUnderscores? (cs : List Char) : Option (List Char) :=
  let groups := cs.splitOn '_'
  if groups.length > 1 ∧ groups.all (!·.isEmpty) then some groups.flatten else none

/-- The text of a number: between spaces, or with underscores. -/
def readNumber? (s : String) : Option Binary64 :=
  (readPlainNumber? (trim s.toList)).orElse fun _ =>
    (withoutUnderscores? s.toList).bind readPlainNumber?

/-- **A floating point number.** -/
def number : Data → Checked Binary64
  | .number x => .valid x
  | .integer i => .valid (.ofInt i)
  | .boolean b => .valid (.ofInt (if b then 1 else 0))
  | .text s => match readNumber? s with
    | some x => .valid x
    | none => .defect .floatParsing
  | _ => .defect .floatType

/-- A number that is not below zero. -/
def numberFromZero (value : Data) : Checked Binary64 :=
  (number value).andThen fun x => if x.isBelowZero then .defect .tooSmall else .valid x

/-! ## The other scalars -/

/-- The words for true. -/
def trueWords : List String := ["1", "t", "true", "y", "yes", "on"]

/-- The words for false. -/
def falseWords : List String := ["0", "f", "false", "n", "no", "off"]

/-- **A truth value.** -/
def boolean : Data → Checked Bool
  | .boolean b => .valid b
  | .integer i => if i = 0 then .valid false else if i = 1 then .valid true else .defect .boolParsing
  | .number x => match x.toInt? with
    | some i => if i = 0 then .valid false else if i = 1 then .valid true else .defect .boolType
    | none => .defect .boolType
  | .text s =>
    let word := String.ofList (s.toList.map Char.toLower)
    if trueWords.contains word then .valid true
    else if falseWords.contains word then .valid false
    else .defect .boolParsing
  | _ => .defect .boolType

/-- **A text.** -/
def text : Data → Checked String
  | .text s => .valid s
  | _ => .defect .stringType

/-- **An identifier.** -/
def uuid : Data → Checked Uuid
  | .text s => match Uuid.parse? s with
    | some u => .valid u
    | none => .defect .uuidParsing
  | _ => .defect .uuidType

/-- **A path.** -/
def path : Data → Checked Path
  | .text s => .valid (Path.parse s)
  | _ => .defect .pathType

/-- **One of some names.** -/
def oneOf {α : Type} (ofName? : String → Option α) : Data → Checked α
  | .text s => match ofName? s with
    | some a => .valid a
    | none => .defect .enumeration
  | _ => .defect .enumeration

/-- A value that may be null. -/
def nullable {α : Type} (check : Data → Checked α) : Data → Checked (Option α)
  | .null => .valid none
  | value => some <$> check value

end AuditTrail.Schema
