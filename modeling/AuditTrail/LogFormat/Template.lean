import AuditTrail.LogFormat.Field
import AuditTrail.LogFormat.Token

/-!
# LogFormat/Template — log formats compiled for reuse

A `Compiler` turns a format into a `Template`: a constant text with an anchor at the place of each
field, and an extractor for each field.  `Template.arguments` renders the fields of an event,
`Template.line` the whole line without the anchors.
-/

namespace AuditTrail

open AuditTrail.LogFormat AuditTrail.Pattern

/-- A field of a format with the function that gives its value. -/
structure Extractor where
  token : Token
  function : FieldFunction

namespace Extractor

/-- The name of the field. -/
def field (x : Extractor) : String := String.ofList x.token.field

/-- The text for a value: an optional field without a value is left out with its sides. -/
def textFor (x : Extractor) (value : FieldValue) : Except Fault String :=
  match x.token.sides, value with
  | none, value => value.shown
  | some _, .absent => .ok ""
  | some (left, right), value => value.shown.map (String.ofList left ++ · ++ String.ofList right)

/-- **The text of the field for an event.**  A failure of the function tells the field; that a value has no
text does not. -/
def render (x : Extractor) (e : Event) : Except Fault String :=
  match x.function e with
  | .ok value => x.textFor value
  | .error fault => .error (.render x.field fault.message)

end Extractor

/-- **A compiled format**: the source, the template, its anchor, and the first literal with the
extractors and the literal after each. -/
structure Template where
  format : String
  template : String
  anchor : String
  head : String
  parts : List (Extractor × String)

namespace Template

/-- The literals around the fields, as they are in the format. -/
def literals (t : Template) : List String := t.head :: t.parts.map (·.2)

/-- The extractors in the order of the format. -/
def extractors (t : Template) : List Extractor := t.parts.map (·.1)

/-- The names of the fields. -/
def fieldNames (t : Template) : List String := t.extractors.map (·.field)

/-- **The texts of the fields for an event**, or the first failure. -/
def arguments (t : Template) (e : Event) : Except Fault (List String) :=
  t.extractors.mapM (·.render e)

/-- The literals with the texts of the fields between them. -/
def interleave (t : Template) (arguments : List String) : String :=
  t.head ++ String.join (List.zipWith (· ++ ·) arguments (t.parts.map (·.2)))

/-- **The whole line for an event.** -/
def line (t : Template) (e : Event) : Except Fault String := (t.arguments e).map t.interleave

end Template

/-- **How formats are compiled**: the fields there are, the anchor, the escape of the text around the
fields, and what is done for other fields. -/
structure Compiler where
  fields : Registry
  anchor : String
  escape : Option (String × String)
  fallback : Option Fallback

namespace Compiler

/-- The function of a field that has to be known. -/
def extractor (c : Compiler) (t : Token) : Except FormatError Extractor :=
  match c.fields.resolve? c.fallback (String.ofList t.field) with
  | some function => .ok ⟨t, function⟩
  | none => .error (.unknownField (String.ofList t.field))

/-- The pattern of the escape. -/
def escapePattern (c : Compiler) : Except FormatError (Option (Compiled × String)) :=
  match c.escape with
  | none => .ok none
  | some (pattern, replacement) =>
    match Compiled.parse? ⟨false, false⟩ pattern with
    | some p => .ok (some (p, replacement))
    | none => .error (.invalidEscape pattern)

/-- What is done to the text around the fields. -/
def escaping : Option (Compiled × String) → Except FormatError (List Char → List Char)
  | none => .ok id
  | some (p, replacement) =>
    match Replacement.parse p replacement with
    | .ok r => .ok (p.replaceAll r)
    | .error e => .error (.invalidReplacement p replacement e)

/-- **Compiling a format.**  The anchor may not be empty, the escape has to be a pattern, every field
has to be known, and then the replacement has to fit the pattern. -/
def compile (c : Compiler) (format : String) : Except FormatError Template := do
  if c.anchor.isEmpty then throw .emptyAnchor
  let pattern ← c.escapePattern
  let pieces := scan format.toList
  let extractors ← pieces.tokens.mapM c.extractor
  let escape ← escaping pattern
  let escaped := pieces.literals.map fun literal => String.ofList (escape literal)
  return {
    format := format
    template := c.anchor.intercalate escaped
    anchor := c.anchor
    head := String.ofList pieces.head
    parts := extractors.zip (pieces.tail.map fun (_, literal) => String.ofList literal) }

end Compiler

end AuditTrail
