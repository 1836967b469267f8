import AuditTrail.Text.CaseTable
import AuditTrail.Text.Ranges
import AuditTrail.Text.SigmaTable

/-!
# Text/Case — upper and lower case of any text

`upper` and `lower` map the characters of a text with the full Unicode mappings, so one character may
become several (`ß` becomes `SS`), and the lower case of `Σ` depends on what is around it.  `lowerChar` is
the mapping to one character that comparison regardless of case starts from.
-/

namespace AuditTrail.Text

/-- The run maps the code point. -/
def CaseRun.covers (run : CaseRun) (n : Nat) : Bool :=
  run.first ≤ n && n ≤ run.last && (n - run.first) % run.step == 0

/-- The image of one code point under the first run that covers it, else itself. -/
def shiftBy (runs : List CaseRun) (n : Nat) : Nat :=
  match runs.find? (·.covers n) with
  | some run => (n + run.shift).toNat
  | none => n

/-- The image of one character: its expansion if it has one, else its shift. -/
def mapCase (expansions : List (Nat × List Nat)) (runs : List CaseRun) (c : Char) : List Char :=
  match expansions.lookup c.toNat with
  | some image => image.map Char.ofNat
  | none => [Char.ofNat (shiftBy runs c.toNat)]

/-- The upper case of one character; ASCII is decided without the tables. -/
def upperOf (c : Char) : List Char :=
  if c.toNat < 128 then [c.toUpper] else mapCase upperExpansions upperRuns c

/-- The lower case of one character; ASCII is decided without the tables. -/
def lowerOf (c : Char) : List Char :=
  if c.toNat < 128 then [c.toLower] else mapCase lowerExpansions lowerRuns c

/-- The text in upper case. -/
def upper (cs : List Char) : List Char := cs.flatMap upperOf

/-- The first character that is not passed over is a letter in some case. -/
def meetsLetter (cs : List Char) : Bool :=
  (cs.find? fun c => !inRanges passedOver c.toNat).any fun c => inRanges cased c.toNat

/-- The lower case of the characters from a place on, with those before it from the place back.  A sigma at
the end of a word has a form of its own. -/
def lowerFrom : (before : List Char) → List Char → List Char
  | _, [] => []
  | before, c :: rest =>
    (if c = 'Σ' ∧ meetsLetter before ∧ ¬ meetsLetter rest then ['ς'] else lowerOf c) ++
      lowerFrom (c :: before) rest

/-- The text in lower case. -/
def lower (cs : List Char) : List Char := lowerFrom [] cs

/-- The first character of the lower case, which stands for the character where case is ignored. -/
def lowerChar (c : Char) : Char := (lowerOf c).headD c

end AuditTrail.Text
