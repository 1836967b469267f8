import AuditTrail.Number.Decimal
import AuditTrail.Text.Quoted

/-!
# Substitution — arguments put into a template

A template is text with conversions that start with `%`.  `scan` cuts it into pieces, the last of which
may be broken; `fill` gives every conversion its argument.  Arguments are texts, so only the
conversions of texts succeed.
-/

namespace AuditTrail.Substitution

open AuditTrail.Number AuditTrail.Text

/-- **Why a template does not fit its arguments.** -/
inductive Misfit
  | tooFewArguments
  | tooManyArguments
  | incomplete
  | mappingWanted
  | starNotInteger
  | widthTooBig
  | precisionTooBig
  | notDecimal (letter : Char)
  | notReal
  | notInteger (letter : Char)
  | notCharacter
  | unsupported (letter : Char) (index : Nat)
  deriving DecidableEq, Repr

/-- The text of a misfit.  Letters beyond printable ASCII are shown as a question mark. -/
def Misfit.message : Misfit → String
  | .tooFewArguments => "not enough arguments for format string"
  | .tooManyArguments => "not all arguments converted during string formatting"
  | .incomplete => "incomplete format"
  | .mappingWanted => "format requires a mapping"
  | .starNotInteger => "* wants int"
  | .widthTooBig => "width too big"
  | .precisionTooBig => "precision too big"
  | .notDecimal c => "%" ++ String.ofList [c] ++ " format: a real number is required, not str"
  | .notReal => "must be real number, not str"
  | .notInteger c => "%" ++ String.ofList [c] ++ " format: an integer is required, not str"
  | .notCharacter => "%c requires int or char"
  | .unsupported c index =>
    let shown := if 32 ≤ c.toNat ∧ c.toNat < 127 then c else '?'
    "unsupported format character '" ++ String.ofList [shown] ++ "' (0x" ++
      String.ofList (hexNumber c.toNat) ++ ") at index " ++ String.ofList (digitsOf index)

/-- How a conversion is laid out: on which side the text stands, the least number of characters, and
the greatest number of characters taken from the text. -/
structure Layout where
  left : Bool
  width : Nat
  precision : Option Nat
  deriving DecidableEq, Repr

/-- A piece of a template.  `star` asks for an argument as its width or precision. -/
inductive Piece
  | plain (c : Char)
  | conversion (layout : Layout) (letter : Char) (index : Nat)
  | star
  | broken (misfit : Misfit)
  deriving DecidableEq, Repr

/-! ## Scanning -/

/-- How far a conversion is read: `percent` after its first character, `flags` after a flag, `width`
and `precision` among their digits, `point` after the point, `sized` after a size letter. -/
inductive Phase
  | text
  | percent
  | flags (left : Bool)
  | width (left : Bool) (width : Nat)
  | point (left : Bool) (width : Nat)
  | precision (left : Bool) (width precision : Nat)
  | sized (layout : Layout)
  deriving DecidableEq, Repr

/-- What a character leads to: another phase, a piece, or a piece that ends the template. -/
inductive Step
  | go (phase : Phase)
  | give (piece : Piece)
  | stop (piece : Piece)

/-- The greatest width. -/
def maxWidth : Nat := twoTo 63 - 1

/-- The greatest precision. -/
def maxPrecision : Nat := twoTo 31 - 1

/-- The value of a digit. -/
def digit? (c : Char) : Option Nat :=
  if 48 ≤ c.toNat ∧ c.toNat ≤ 57 then some (c.toNat - 48) else none

/-- A flag of a conversion. -/
def isFlag (c : Char) : Bool := c == '-' || c == '+' || c == ' ' || c == '#' || c == '0'

/-- A size letter, which has no meaning. -/
def isSize (c : Char) : Bool := c == 'h' || c == 'l' || c == 'L'

/-- A size letter or the letter of a conversion. -/
def afterLayout (layout : Layout) (index : Nat) (c : Char) : Step :=
  if isSize c then .go (.sized layout) else .give (.conversion layout c index)

/-- A point, or what may follow the width. -/
def afterWidth (left : Bool) (width index : Nat) (c : Char) : Step :=
  if c = '.' then .go (.point left width) else afterLayout ⟨left, width, none⟩ index c

/-- A flag, a width, or what may follow them. -/
def afterFlags (left : Bool) (index : Nat) (c : Char) : Step :=
  if isFlag c then .go (.flags (left || c == '-'))
  else if c = '*' then .stop .star
  else match digit? c with
    | some d => .go (.width left d)
    | none => afterWidth left 0 index c

/-- **One character of a template**, at an index. -/
def Phase.step (index : Nat) (c : Char) : Phase → Step
  | .text => if c = '%' then .go .percent else .give (.plain c)
  | .percent =>
    if c = '%' then .give (.plain '%')
    else if c = '(' then .stop (.broken .mappingWanted)
    else afterFlags false index c
  | .flags left => afterFlags left index c
  | .width left w =>
    match digit? c with
    | some d =>
      if maxWidth < 10 * w + d then .stop (.broken .widthTooBig) else .go (.width left (10 * w + d))
    | none => afterWidth left w index c
  | .point left w =>
    if c = '*' then .stop .star
    else match digit? c with
      | some d => .go (.precision left w d)
      | none => afterLayout ⟨left, w, some 0⟩ index c
  | .precision left w p =>
    match digit? c with
    | some d =>
      if maxPrecision < 10 * p + d then .stop (.broken .precisionTooBig)
      else .go (.precision left w (10 * p + d))
    | none => afterLayout ⟨left, w, some p⟩ index c
  | .sized layout => .give (.conversion layout c index)

/-- **The pieces of a template** from an index on. -/
def scan : Phase → (index : Nat) → List Char → List Piece
  | .text, _, [] => []
  | _, _, [] => [.broken .incomplete]
  | phase, index, c :: rest =>
    match phase.step index c with
    | .go next => scan next (index + 1) rest
    | .give piece => piece :: scan .text (index + 1) rest
    | .stop piece => [piece]

/-! ## Filling -/

/-- The text on its side of a field that is at least as wide as the layout says. -/
def Layout.pad (layout : Layout) (text : List Char) : List Char :=
  let blanks := List.replicate (layout.width - text.length) ' '
  if layout.left then text ++ blanks else blanks ++ text

/-- As much of the text as the layout takes. -/
def Layout.cut (layout : Layout) (text : List Char) : List Char :=
  match layout.precision with
  | some n => text.take n
  | none => text

/-- **One argument, converted**: as it is, quoted, quoted in ASCII, or as a single character. -/
def convert (layout : Layout) (letter : Char) (index : Nat) (argument : List Char) :
    Except Misfit (List Char) :=
  if letter = 's' then .ok (layout.pad (layout.cut argument))
  else if letter = 'r' then .ok (layout.pad (layout.cut (quoteWith false argument)))
  else if letter = 'a' then .ok (layout.pad (layout.cut (quoteWith true argument)))
  else if letter = 'c' then
    match argument with
    | [c] => .ok (layout.pad [c])
    | _ => .error .notCharacter
  else if "diu".toList.contains letter then .error (.notDecimal letter)
  else if "xXo".toList.contains letter then .error (.notInteger letter)
  else if "eEfFgG".toList.contains letter then .error .notReal
  else .error (.unsupported letter index)

/-- **The pieces with their arguments**, from left to right; in the end no argument may be left. -/
def fill : List Piece → (arguments : List (List Char)) → Except Misfit (List Char)
  | [], [] => .ok []
  | [], _ :: _ => .error .tooManyArguments
  | .plain c :: rest, arguments => (c :: ·) <$> fill rest arguments
  | .broken misfit :: _, _ => .error misfit
  | .star :: _, [] => .error .tooFewArguments
  | .star :: _, _ :: _ => .error .starNotInteger
  | .conversion _ _ _ :: _, [] => .error .tooFewArguments
  | .conversion layout letter index :: rest, a :: arguments => do
    let text ← convert layout letter index a
    return text ++ (← fill rest arguments)

/-- **The template with its arguments.** -/
def substituteChars (template : List Char) (arguments : List (List Char)) :
    Except Misfit (List Char) := fill (scan .text 0 template) arguments

/-- The template with its arguments, as a string; the error tells the template. -/
def substitute (template : String) (arguments : List String) : Except String String :=
  match substituteChars template.toList (arguments.map String.toList) with
  | .ok text => .ok (String.ofList text)
  | .error misfit =>
    .error ("Cannot substitute audit record into " ++ quote template ++ ": " ++ misfit.message)

end AuditTrail.Substitution
