import AuditTrail.Text.Ranges
import AuditTrail.Text.WordTable

/-!
# Text/Word — letters, digits and word characters

`isWord` holds of letters, numbers and the underscore, `isDecimalDigit` of the decimal digits of any
script.
-/

namespace AuditTrail.Text

/-- The ASCII digits `0` to `9`. -/
def isAsciiDigit (c : Char) : Bool := 48 ≤ c.toNat && c.toNat ≤ 57

/-- The ASCII letters of either case. -/
def isAsciiLetter (c : Char) : Bool :=
  (65 ≤ c.toNat && c.toNat ≤ 90) || (97 ≤ c.toNat && c.toNat ≤ 122)

/-- A letter or number of any script, or the underscore. -/
def isWord (c : Char) : Bool :=
  isAsciiDigit c || isAsciiLetter c || c == '_' || (128 ≤ c.toNat && inRanges wordRanges c.toNat)

/-- A decimal digit of any script. -/
def isDecimalDigit (c : Char) : Bool :=
  isAsciiDigit c || (128 ≤ c.toNat && inRanges digitRanges c.toNat)

/-- The value of a hexadecimal digit of either case. -/
def hexValue? (c : Char) : Option Nat :=
  let n := c.toNat
  if 48 ≤ n ∧ n ≤ 57 then some (n - 48)
  else if 97 ≤ n ∧ n ≤ 102 then some (n - 87)
  else if 65 ≤ n ∧ n ≤ 70 then some (n - 55)
  else none

end AuditTrail.Text
