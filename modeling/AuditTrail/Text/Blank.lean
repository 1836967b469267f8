/-!
# Text/Blank — white space, stripping and joining of blanks

`isBlank` is the set of white space characters every part of the library uses, `strip` removes them
from both ends of a text, and `joinBlanks` writes each run of them as one given character.
-/

namespace AuditTrail.Text

/-- **Blank characters**: the 29 characters that Unicode counts as white space, with the four
information separators U+001C to U+001F, and without the zero width characters. -/
def isBlank (c : Char) : Bool :=
  let n := c.toNat
  (9 ≤ n && n ≤ 13) || (28 ≤ n && n ≤ 32) || n == 0x85 || n == 0xA0 || n == 0x1680 ||
    (0x2000 ≤ n && n ≤ 0x200A) || n == 0x2028 || n == 0x2029 || n == 0x202F || n == 0x205F ||
    n == 0x3000

/-- The text without the blanks at its end. -/
def stripRight : List Char → List Char
  | [] => []
  | c :: rest =>
    match stripRight rest with
    | [] => if isBlank c then [] else [c]
    | kept => c :: kept

/-- The text without the blanks at its two ends. -/
def strip (cs : List Char) : List Char := stripRight (cs.dropWhile isBlank)

/-- The text with every maximal run of blanks written as one `mark`; `inside` tells that the
character before was a blank. -/
def joinBlanksFrom (mark : Char) : Bool → List Char → List Char
  | _, [] => []
  | inside, c :: rest =>
    if isBlank c then
      if inside then joinBlanksFrom mark true rest else mark :: joinBlanksFrom mark true rest
    else c :: joinBlanksFrom mark false rest

/-- Every maximal run of blanks becomes one `mark`. -/
def joinBlanks (mark : Char) (cs : List Char) : List Char := joinBlanksFrom mark false cs

/-! ## The same on strings -/

/-- The string without the blanks at its two ends. -/
def stripped (s : String) : String := String.ofList (strip s.toList)

end AuditTrail.Text
