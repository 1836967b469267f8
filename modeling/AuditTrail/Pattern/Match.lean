import AuditTrail.Pattern.Syntax

/-!
# Pattern/Match — matching by trying the choices in order

`Node.run` matches a pattern at a spot of a text and hands every spot after a match to what comes
next, in the order of preference, until that succeeds.  `fullMatch?` asks for a match of the whole
text, `find?` for the first place at which there is one.
-/

namespace AuditTrail.Pattern

/-- A captured span: its group, its start and its end. -/
abbrev Capture := Nat × Nat × Nat

/-- **A spot of a text**: how many characters are before it, what is after it, and what the groups
have captured so far, the newest first. -/
structure Spot where
  position : Nat
  rest : List Char
  captures : List Capture
  deriving Repr

namespace Spot

/-- The spot before a text. -/
def before (text : List Char) : Spot := ⟨0, text, []⟩

/-- The span that a group captured last. -/
def span? (s : Spot) (group : Nat) : Option (Nat × Nat) := s.captures.lookup group

end Spot

/-- What is to be done after a match. -/
abbrev Next := Spot → Option Spot

/-- **Repeating a match**, `count` times so far.  From `least` times on another repetition is tried
before going on, or after it when `lazy`; it is not tried again at the spot where the one before
started, and `fuel` bounds how many there can be. -/
def repeatRun (body : Spot → Next → Option Spot) (lazy : Bool) (least : Nat) (most : Option Nat)
    (next : Next) : (fuel : Nat) → (count : Nat) → (last : Option Nat) → Spot → Option Spot
  | 0, _, _, _ => none
  | fuel + 1, count, last, s =>
    if count < least then body s (repeatRun body lazy least most next fuel (count + 1) last)
    else
      let again (_ : Unit) : Option Spot :=
        if most.all (count < ·) && last != some s.position then
          body s (repeatRun body lazy least most next fuel (count + 1) (some s.position))
        else none
      if lazy then (next s).orElse again else (again ()).orElse fun _ => next s

/-- **Matching at a spot**: the first spot after a match from which `next` succeeds. -/
def Node.run (modes : Modes) : Node → Spot → Next → Option Spot
  | .empty, s, next => next s
  | .atom a, s, next =>
    match s.rest with
    | [] => none
    | c :: rest => if a.accepts modes c then next ⟨s.position + 1, rest, s.captures⟩ else none
  | .start, s, next => if s.position = 0 then next s else none
  | .finish, s, next => if s.rest = [] ∨ s.rest = ['\n'] then next s else none
  | .sequence a b, s, next => a.run modes s fun t => b.run modes t next
  | .choice a b, s, next => (a.run modes s next).orElse fun _ => b.run modes s next
  | .repetition lazy least most body, s, next =>
    repeatRun (body.run modes) lazy least most next (least + s.rest.length + 2) 0 none s
  | .group index body, s, next =>
    body.run modes s fun t =>
      next { t with captures := (index, s.position, t.position) :: t.captures }

namespace Compiled

/-- **The match of the whole text**, if there is one. -/
def fullMatch? (p : Compiled) (text : List Char) : Option Spot :=
  p.node.run p.modes (.before text) fun s => if s.rest.isEmpty then some s else none

/-- The match at a spot; with `advance` it may not be empty. -/
def matchAt? (p : Compiled) (advance : Bool) (position : Nat) (text : List Char) : Option Spot :=
  p.node.run p.modes ⟨position, text, []⟩ fun s =>
    if advance && s.position == position then none else some s

/-- **The first match** from a spot on, with the characters passed over to get there; with `advance`
it may not be empty at that very spot. -/
def find? (p : Compiled) (advance : Bool) (position : Nat) :
    List Char → Option (List Char × Nat × Spot)
  | [] => (p.matchAt? advance position []).map fun s => ([], position, s)
  | c :: rest =>
    match p.matchAt? advance position (c :: rest) with
    | some s => some ([], position, s)
    | none => (p.find? false (position + 1) rest).map fun (passed, found) => (c :: passed, found)

/-- The number of a group by its name. -/
def groupNamed? (p : Compiled) (name : String) : Option Nat := p.names.lookup name

end Compiled

end AuditTrail.Pattern
