import AuditTrail.Event.Basic
import AuditTrail.Fault
import AuditTrail.Pattern.Match

/-!
# Redaction — masking secrets in operation texts

A `Redactor` tries its rules in turn; the first that matches the whole text has the span of its group
replaced by the mask.  A rule can be made of a pattern (`RedactionRule.ofPattern`).  Texts are redacted where a
password can stand: in operations that create or alter roles, and in operations that are not known.
-/

namespace AuditTrail

open AuditTrail.Pattern

/-- The span that a group captured, by its name, if it took part in a match. -/
abbrev GroupSpans := (name : String) → Except Fault (Option (Nat × Nat))

/-- **What matches whole texts**, and the name of the group that holds the secret. -/
structure RedactionRule where
  fullMatch? : (text : List Char) → Option GroupSpans
  group : String

/-- The groups of a match; a name that no group has is refused. -/
def Pattern.Compiled.groups (p : Compiled) (found : Spot) : GroupSpans := fun name =>
  match p.groupNamed? name with
  | some index => .ok (found.span? index)
  | none => .error (.other .index "no such group")

/-- **The rule of a pattern.** -/
def RedactionRule.ofPattern (p : Compiled) (group : String) : RedactionRule where
  fullMatch? text := (p.fullMatch? text).map p.groups
  group := group

/-- **How operation texts are redacted.** -/
structure Redactor where
  mask : String
  redactUnknown : Bool
  rules : List RedactionRule

/-- White space. -/
def blankAtom : Atom := .set false [.category .blank false]

/-- **A quoted password**: anything, then `password` in any case, perhaps an equals sign among blanks,
and a quoted text without blanks, then anything.  What comes first takes as much as it can, so the last
password of a text is the one that is found. -/
def passwordPattern : Compiled where
  node := .all [
    .many .any, .word "password".toList, .many blankAtom, .maybe (.atom (.char '=')), .many blankAtom,
    .atom (.char '\''), .group 1 (.some (.set true [.category .blank false])), .atom (.char '\''),
    .many .any]
  modes := ⟨true, true⟩
  groupCount := 1
  names := [("password", 1)]

namespace Redactor

/-- Five stars for passwords, also in operations that are not known. -/
def default : Redactor := ⟨"*****", true, [.ofPattern passwordPattern "password"]⟩

/-- The permissions with which a password can be set. -/
def setsPassword (p : Permission) : Bool := p == .create || p == .alter

/-- **The event may carry a password.** -/
def shouldRedact (r : Redactor) (e : Event) : Bool :=
  (!e.hasKnownOperation && r.redactUnknown) ||
    (e.resource.isRole && e.permissions.any setsPassword)

/-- The text with a span replaced by the mask.  Where the group took no part, the last character
counts as the end before and as the start after the mask. -/
def splice (mask text : List Char) : Option (Nat × Nat) → List Char
  | some (start, finish) => text.take start ++ mask ++ text.drop finish
  | none => text.dropLast ++ mask ++ text.drop (text.length - 1)

/-- **Redacting a text** by the first rule that matches it; a rule that matches has to have its
group. -/
def redactChars (mask : List Char) (rules : List RedactionRule) (text : List Char) :
    Except Fault (List Char) :=
  match rules with
  | [] => .ok text
  | rule :: rest =>
    match rule.fullMatch? text with
    | none => redactChars mask rest text
    | some groups => (groups rule.group).map (splice mask text)

/-- The redacted text. -/
def redactText (r : Redactor) (text : String) : Except Fault String :=
  (redactChars r.mask.toList r.rules text.toList).map String.ofList

/-- **The redacted event**, and whether that is another event than the one given. -/
def redact? (r : Redactor) (e : Event) : Except Fault (Option Event) :=
  match e.operation with
  | none => .ok none
  | some text =>
    if r.shouldRedact e then
      (r.redactText text).map fun redacted =>
        if redacted = text then none else some (e.withOperation redacted)
    else .ok none

/-- **Redacting an event.** -/
def redact (r : Redactor) (e : Event) : Except Fault Event := (r.redact? e).map (·.getD e)

end Redactor

end AuditTrail
