import AuditTrail.Pattern.Match
import AuditTrail.Pattern.Parser

/-!
# Pattern/Replacement — replacing every match of a pattern

A `Replacement` is literal text with references to groups.  `Replacement.parse` reads it for a pattern
that has those groups; `Compiled.replaceAll` puts it in place of each match from left to right, where a
match may be empty unless the match before was empty at the same spot.
-/

namespace AuditTrail.Pattern

open AuditTrail.Number AuditTrail.Text

/-- A character of a replacement, or what a group captured; group 0 is the whole match. -/
inductive ReplacementPart
  | char (c : Char)
  | group (index : Nat)
  deriving DecidableEq, Repr

/-- A replacement, read. -/
abbrev Replacement := List ReplacementPart

/-- **Why a text is no replacement** for a pattern. -/
inductive ReplacementError
  /-- A reference to a name that no group has. -/
  | unknownName (name : String)
  /-- An escape without a meaning, or a reference to a group that there is not. -/
  | malformed
  deriving DecidableEq, Repr

/-- An octal digit. -/
def isOctal (c : Char) : Bool := 48 ≤ c.toNat && c.toNat ≤ 55

/-- The value of octal digits. -/
def octalValue (digits : List Char) : Nat := digits.foldl (fun n c => 8 * n + (c.toNat - 48)) 0

namespace Replacement

/-- A reference to a group by number. -/
def reference (p : Compiled) (index : Nat) : Except ReplacementError ReplacementPart :=
  if index ≤ p.groupCount then .ok (.group index) else .error .malformed

/-- A reference to a group by what stands between angle brackets. -/
def namedReference (p : Compiled) (name : List Char) : Except ReplacementError ReplacementPart :=
  if isGroupName name then
    match p.groupNamed? (String.ofList name) with
    | some index => .ok (.group index)
    | none => .error (.unknownName (String.ofList name))
  else if !name.isEmpty && name.all isAsciiDigit then reference p (foldDigits 0 name)
  else .error .malformed

/-- What an escape stands for that starts with a digit: a character by its octal value, when it
starts with zero or has three octal digits, else a group; and how many characters it has. -/
def digitEscape (p : Compiled) (cs : List Char) : Except ReplacementError (ReplacementPart × Nat) :=
  match cs with
  | '0' :: rest =>
    let more := (rest.take 2).takeWhile isOctal
    .ok (.char (Char.ofNat (octalValue more)), 1 + more.length)
  | _ =>
    let digits := (cs.take 2).takeWhile isAsciiDigit
    let octal := (cs.take 3).takeWhile isOctal
    if octal.length = 3 then
      if octalValue octal ≤ 255 then .ok (.char (Char.ofNat (octalValue octal)), 3)
      else .error .malformed
    else (reference p (foldDigits 0 digits)).map (·, digits.length)

/-- What an escape stands for, after the backslash, and how many characters it has.  A character that
is no letter stays as it is, with the backslash.  A lone backslash right after a reference is found
before the name is looked up. -/
def escape (p : Compiled) (cs : List Char) : Except ReplacementError (Replacement × Nat) :=
  match cs with
  | [] => .error .malformed
  | 'g' :: '<' :: rest =>
    let name := rest.takeWhile (· ≠ '>')
    if name.length < rest.length ∧ rest.drop (name.length + 1) ≠ ['\\'] then
      (namedReference p name).map fun part => ([part], name.length + 3)
    else .error .malformed
  | c :: _ =>
    if isAsciiDigit c then (digitEscape p cs).map fun (part, length) => ([part], length)
    else if c = '\\' then .ok ([.char '\\'], 1)
    else if c = 'b' then .ok ([.char '\x08'], 1)
    else match controlOf? c with
      | some d => .ok ([.char d], 1)
      | none =>
        if isAsciiLetter c then .error .malformed else .ok ([.char '\\', .char c], 1)

/-- The parts of a text of which the first `skip` characters are already read. -/
def parts (p : Compiled) : (skip : Nat) → List Char → Except ReplacementError Replacement
  | _, [] => .ok []
  | skip + 1, _ :: rest => parts p skip rest
  | 0, c :: rest =>
    if c = '\\' then do
      let (part, length) ← escape p rest
      let more ← parts p length rest
      return part ++ more
    else (parts p 0 rest).map (.char c :: ·)

/-- **Reading a replacement** for a pattern. -/
def parse (p : Compiled) (text : String) : Except ReplacementError Replacement := parts p 0 text.toList

/-- The characters of a text from one position to another. -/
def between (text : List Char) (start finish : Nat) : List Char :=
  (text.drop start).take (finish - start)

/-- **The text that a replacement gives for a match**; a group that took no part is empty. -/
def fill (text : List Char) (start : Nat) (found : Spot) (r : Replacement) : List Char :=
  r.flatMap fun
    | .char c => [c]
    | .group 0 => between text start found.position
    | .group index => match found.span? index with
      | some (a, b) => between text a b
      | none => []

end Replacement

namespace Compiled

/-- The text from a spot on with its matches replaced; `fuel` bounds their number. -/
def replaceFrom (p : Compiled) (r : Replacement) (text : List Char) :
    (fuel : Nat) → (advance : Bool) → (position : Nat) → List Char → List Char
  | 0, _, _, rest => rest
  | fuel + 1, advance, position, rest =>
    match p.find? advance position rest with
    | none => rest
    | some (passed, start, found) =>
      passed ++ r.fill text start found ++
        p.replaceFrom r text fuel (found.position == start) found.position found.rest

/-- **Every match replaced.** -/
def replaceAll (p : Compiled) (r : Replacement) (text : List Char) : List Char :=
  p.replaceFrom r text (2 * text.length + 2) false 0 text

end Compiled

end AuditTrail.Pattern
