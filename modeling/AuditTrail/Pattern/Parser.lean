import AuditTrail.Number.Decimal
import AuditTrail.Pattern.Syntax

/-!
# Pattern/Parser — reading patterns

`Compiled.parse?` reads a pattern: literals, `.`, classes, escapes, `^` and `$`, groups with and
without names, `|`, and the repetitions `*`, `+`, `?` and `{m,n}`, each greedy or lazy.  A text that is
no pattern, such as one with an open group, gives `none`.
-/

namespace AuditTrail.Pattern

open AuditTrail.Number AuditTrail.Text

/-- The groups opened so far. -/
structure Groups where
  count : Nat
  names : List (String × Nat)

/-! ## Escapes -/

/-- The class of an escape letter. -/
def categoryOf? : Char → Option SetItem
  | 'd' => some (.category .digit false)
  | 'D' => some (.category .digit true)
  | 's' => some (.category .blank false)
  | 'S' => some (.category .blank true)
  | 'w' => some (.category .word false)
  | 'W' => some (.category .word true)
  | _ => none

/-- The control character of an escape letter. -/
def controlOf? : Char → Option Char
  | 'a' => some '\x07'
  | 'f' => some '\x0c'
  | 'n' => some '\n'
  | 'r' => some '\r'
  | 't' => some '\t'
  | 'v' => some '\x0b'
  | _ => none

/-- Exactly `count` hexadecimal digits as a character. -/
def hexEscape? (count : Nat) (cs : List Char) : Option (Char × List Char) := do
  let digits := cs.take count
  if digits.length ≠ count then none
  else
    let n ← digits.foldl (fun sofar c => do return 16 * (← sofar) + (← hexValue? c)) (some 0)
    return (Char.ofNat n, cs.drop count)

/-- The character that an escape stands for, after the backslash; letters without a meaning and
digits stand for none. -/
def escapedChar? : List Char → Option (Char × List Char)
  | 'x' :: rest => hexEscape? 2 rest
  | 'u' :: rest => hexEscape? 4 rest
  | 'U' :: rest => hexEscape? 8 rest
  | c :: rest =>
    match controlOf? c with
    | some d => some (d, rest)
    | none => if isAsciiLetter c || isAsciiDigit c then none else some (c, rest)
  | [] => none

/-! ## Sets -/

/-- One member of a set, a character or a class. -/
def setMember? : List Char → Option (SetItem × List Char)
  | [] => none
  | '\\' :: 'b' :: rest => some (.single '\x08', rest)
  | '\\' :: c :: rest =>
    match categoryOf? c with
    | some item => some (item, rest)
    | none => (escapedChar? (c :: rest)).map fun (d, after) => (.single d, after)
  | ['\\'] => none
  | c :: rest => some (.single c, rest)

/-- The members of a set up to its closing bracket, which as the first member is a character. -/
def setItems? : (fuel : Nat) → (first : Bool) → List Char → Option (List SetItem × List Char)
  | 0, _, _ => none
  | fuel + 1, first, cs =>
    match first, cs with
    | false, ']' :: rest => some ([], rest)
    | _, cs => do
      let (item, rest) ← setMember? cs
      match rest with
      | '-' :: ']' :: after => return ([item, .single '-'], after)
      | '-' :: more => do
        let (upper, after) ← setMember? more
        match item, upper with
        | .single a, .single b =>
          if b.toNat < a.toNat then none
          else
            let (items, after) ← setItems? fuel false after
            return (.range a b :: items, after)
        | _, _ => none
      | _ => do
        let (items, after) ← setItems? fuel false rest
        return (item :: items, after)

/-- A set after its opening bracket. -/
def set? (cs : List Char) : Option (Node × List Char) :=
  let (negated, rest) := match cs with
    | '^' :: rest => (true, rest)
    | rest => (false, rest)
  (setItems? (rest.length + 1) true rest).map fun (items, after) => (.atom (.set negated items), after)

/-! ## Repetitions -/

/-- The bounds between braces, if what follows the brace writes some. -/
def bounds? (cs : List Char) : Option (Nat × Option Nat × List Char) :=
  let (low, rest) := spanDigits cs
  match rest with
  | '\x7d' :: after => if low.isEmpty then none else
      let n := foldDigits 0 low
      some (n, some n, after)
  | ',' :: more =>
    let (high, rest) := spanDigits more
    match rest with
    | '\x7d' :: after =>
      some (foldDigits 0 low, if high.isEmpty then none else some (foldDigits 0 high), after)
    | _ => none
  | _ => none

/-- A repetition sign: its bounds and what follows. -/
def repeatSign? : List Char → Option (Nat × Option Nat × List Char)
  | '*' :: rest => some (0, none, rest)
  | '+' :: rest => some (1, none, rest)
  | '?' :: rest => some (0, some 1, rest)
  | '\x7b' :: rest => bounds? rest
  | _ => none

/-- The pattern may not be repeated: it is an end of the text or a repetition already. -/
def isUnrepeatable : Node → Bool
  | .start | .finish | .repetition _ _ _ _ => true
  | _ => false

/-- A pattern with the repetition sign that follows it, if there is one. -/
def withRepeat? (node : Node) (repeatable : Bool) (cs : List Char) : Option (Node × List Char) :=
  match repeatSign? cs with
  | none => some (node, cs)
  | some (least, most, rest) =>
    if !repeatable || most.any (· < least) then none
    else
      let (lazy, rest) := match rest with
        | '?' :: after => (true, after)
        | after => (false, after)
      if (repeatSign? rest).isSome then none
      else some (.repetition lazy least most node, rest)

/-! ## Groups -/

/-- A name: word characters, of which the first is no digit. -/
def isGroupName : List Char → Bool
  | [] => false
  | c :: rest => isWord c && !isDecimalDigit c && rest.all isWord

/-- How a group starts, after its opening parenthesis: its number unless it does not capture, and the
groups with it. -/
def openGroup? (groups : Groups) : List Char → Option (Option Nat × Groups × List Char)
  | '?' :: ':' :: rest => some (none, groups, rest)
  | '?' :: 'P' :: '<' :: rest =>
    let name := rest.takeWhile (· ≠ '>')
    let index := groups.count + 1
    let known := (groups.names.lookup (String.ofList name)).isSome
    match rest.drop name.length with
    | _ :: after =>
      if isGroupName name && !known then
        some (some index, ⟨index, (String.ofList name, index) :: groups.names⟩, after)
      else none
    | [] => none
  | '?' :: _ => none
  | rest => some (some (groups.count + 1), { groups with count := groups.count + 1 }, rest)

/-! ## The whole -/

mutual

/-- Alternatives up to the end or a closing parenthesis. -/
def alternatives? : (fuel : Nat) → Groups → List Char → Option (Node × Groups × List Char)
  | 0, _, _ => none
  | fuel + 1, groups, cs => do
    let (first, groups, rest) ← series? fuel groups cs
    match rest with
    | '|' :: more => do
      let (second, groups, after) ← alternatives? fuel groups more
      return (.choice first second, groups, after)
    | _ => return (first, groups, rest)

/-- Repeated items in sequence, up to the end, a bar or a closing parenthesis. -/
def series? : (fuel : Nat) → Groups → List Char → Option (Node × Groups × List Char)
  | 0, _, _ => none
  | fuel + 1, groups, cs =>
    match cs with
    | [] => some (.empty, groups, [])
    | '|' :: _ => some (.empty, groups, cs)
    | ')' :: _ => some (.empty, groups, cs)
    | _ => do
      let (item, groups, rest) ← item? fuel groups cs
      let (item, rest) ← withRepeat? item (cs.head? = some '(' || !isUnrepeatable item) rest
      let (more, groups, after) ← series? fuel groups rest
      return (match more with | .empty => item | more => .sequence item more, groups, after)

/-- One item. -/
def item? : (fuel : Nat) → Groups → List Char → Option (Node × Groups × List Char)
  | 0, _, _ => none
  | fuel + 1, groups, cs =>
    match cs with
    | [] => none
    | '.' :: rest => some (.atom .any, groups, rest)
    | '^' :: rest => some (.start, groups, rest)
    | '$' :: rest => some (.finish, groups, rest)
    | '[' :: rest => (set? rest).map fun (node, after) => (node, groups, after)
    | '(' :: rest => do
      let (index, groups, rest) ← openGroup? groups rest
      let (body, groups, rest) ← alternatives? fuel groups rest
      match rest with
      | ')' :: after => return (match index with | some i => .group i body | none => body, groups, after)
      | _ => none
    | '\\' :: c :: rest =>
      match categoryOf? c with
      | some item => some (.atom (.set false [item]), groups, rest)
      | none => (escapedChar? (c :: rest)).map fun (d, after) => (.atom (.char d), groups, after)
    | ['\\'] => none
    | c :: rest => if (repeatSign? cs).isSome then none else some (.atom (.char c), groups, rest)

end

/-- **Reading a pattern.** -/
def Compiled.parse? (modes : Modes) (text : String) : Option Compiled := do
  let cs := text.toList
  let (node, groups, rest) ← alternatives? (3 * cs.length + 3) ⟨0, []⟩ cs
  if rest.isEmpty then some ⟨node, modes, groups.count, groups.names⟩ else none

end AuditTrail.Pattern
