import AuditTrail.Pattern.Replacement
import AuditTrail.Time.Zone

/-!
# LogFormat/Error — why a log format cannot be used
-/

namespace AuditTrail

open AuditTrail.Text AuditTrail.Pattern

/-- **What is wrong with a log format** or with one of its settings. -/
inductive FormatError
  | emptyAnchor
  | invalidEscape (pattern : String)
  | invalidReplacement (pattern : Compiled) (replacement : String) (error : ReplacementError)
  | unknownField (name : String)
  | unknownZone (name : String)
  | unreadableZone (fault : Fault)
  | emptyTimeFormat
  | unsupportedDirective (format : String) (letter : Option Char)
  deriving Repr

/-- **The words of the pattern engine**, for a pattern and for a replacement that it refuses. -/
structure PatternWords where
  ofPattern : (pattern : String) → String
  ofReplacement : (pattern : Compiled) → (replacement : String) → String

/-- No words. -/
def PatternWords.silent : PatternWords := ⟨fun _ => "", fun _ _ => ""⟩

/-- The fault that the error is.  What the pattern engine or the host refuses is told as they tell it, all
else as a configuration error. -/
def FormatError.fault (words : PatternWords) : FormatError → Fault
  | .emptyAnchor => .configuration "Log template anchor must not be empty"
  | .invalidEscape pattern =>
    .configuration ("Invalid escape pattern " ++ quote pattern ++ ": " ++ words.ofPattern pattern)
  | .invalidReplacement pattern replacement .malformed =>
    .other .pattern (words.ofReplacement pattern replacement)
  | .invalidReplacement _ _ (.unknownName name) =>
    .other .index ("unknown group name " ++ quote name)
  | .unknownField name => .configuration ("Unknown log format field: " ++ name)
  | .unknownZone name => .configuration ("Invalid time zone parameter: " ++ name)
  | .unreadableZone fault => fault
  | .emptyTimeFormat => .configuration "Invalid time format parameter: empty format"
  | .unsupportedDirective format letter =>
    .configuration ("Invalid time format parameter: " ++ format ++ " (unsupported directive %" ++
      String.ofList letter.toList ++ ")")

end AuditTrail
