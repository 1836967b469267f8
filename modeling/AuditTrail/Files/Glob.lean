/-!
# Files/Glob — file names by pattern

    *  any characters      ?  one character      [a-z]  one of a set      [!a-z]  one not of a set

`Glob.parse` reads a pattern and `Glob.accepts` matches a whole name with it.  A bracket that is never
closed is a plain character.
-/

namespace AuditTrail

/-- A part of a set: a range of characters, which may hold none. -/
structure GlobRange where
  first : Char
  last : Char
  deriving DecidableEq, Repr

/-- The range holds the character. -/
def GlobRange.holds (r : GlobRange) (c : Char) : Bool :=
  r.first.toNat ≤ c.toNat && c.toNat ≤ r.last.toNat

/-- A part of a pattern. -/
inductive GlobPart
  | char (c : Char)
  | one
  | many
  | set (negated : Bool) (ranges : List GlobRange)
  deriving DecidableEq, Repr

/-- **A pattern of names.** -/
abbrev Glob := List GlobPart

namespace Glob

/-- The ranges written between brackets. -/
def ranges : List Char → List GlobRange
  | a :: '-' :: b :: rest => ⟨a, b⟩ :: ranges rest
  | a :: rest => ⟨a, a⟩ :: ranges rest
  | [] => []

/-- What stands between an opening bracket and the one that closes it, and what follows; a closing
bracket in the first place is a member. -/
def closing? (cs : List Char) : Option (List Char × List Char) :=
  let least := match cs with
    | '!' :: ']' :: _ => 2
    | '!' :: _ => 1
    | ']' :: _ => 1
    | _ => 0
  let more := (cs.drop least).takeWhile (· ≠ ']')
  let inside := cs.take least ++ more
  match cs.drop inside.length with
  | _ :: after => some (inside, after)
  | [] => none

/-- The set written between brackets. -/
def setOf : List Char → GlobPart
  | '!' :: members => .set true (ranges members)
  | members => .set false (ranges members)

/-- The parts of a pattern of which the first `skip` characters are already read. -/
def parts : (skip : Nat) → List Char → Glob
  | _, [] => []
  | skip + 1, _ :: rest => parts skip rest
  | 0, '*' :: rest => .many :: parts 0 rest
  | 0, '?' :: rest => .one :: parts 0 rest
  | 0, '[' :: rest =>
    match closing? rest with
    | some (inside, _) => setOf inside :: parts (inside.length + 1) rest
    | none => .char '[' :: parts 0 rest
  | 0, c :: rest => .char c :: parts 0 rest

/-- **Reading a pattern.** -/
def parse (cs : List Char) : Glob := parts 0 cs

/-- A text and all that is left of it after some characters. -/
def suffixes : List Char → List (List Char)
  | [] => [[]]
  | c :: rest => (c :: rest) :: suffixes rest

/-- **The pattern matches the whole name.** -/
def accepts : Glob → List Char → Bool
  | [], name => name.isEmpty
  | .many :: rest, name => (suffixes name).any fun after => accepts rest after
  | .one :: rest, _ :: name => accepts rest name
  | .char x :: rest, c :: name => x == c && accepts rest name
  | .set negated members :: rest, c :: name =>
    (negated != members.any (·.holds c)) && accepts rest name
  | _ :: _, [] => false

end Glob

end AuditTrail
