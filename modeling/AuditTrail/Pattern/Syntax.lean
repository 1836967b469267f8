import AuditTrail.Text.Blank
import AuditTrail.Text.Fold
import AuditTrail.Text.Word

/-!
# Pattern/Syntax — patterns of texts

A `Node` is a pattern: characters, sequence, choice, repetition, capturing groups and the two ends of
the text.  `Atom.accepts` tells which characters a one character pattern matches under the modes of
the whole `Pattern`.
-/

namespace AuditTrail.Pattern

open AuditTrail.Text

/-- The named classes of characters. -/
inductive Category
  | digit | blank | word
  deriving DecidableEq, Repr

/-- The class holds the character. -/
def Category.holds : Category → Char → Bool
  | .digit, c => isDecimalDigit c
  | .blank, c => isBlank c
  | .word, c => isWord c

/-- A part of a set of characters. -/
inductive SetItem
  | single (c : Char)
  | range (first last : Char)
  | category (category : Category) (negated : Bool)
  deriving DecidableEq, Repr

/-- A pattern of one character. -/
inductive Atom
  | char (c : Char)
  | any
  | set (negated : Bool) (items : List SetItem)
  deriving DecidableEq, Repr

/-- **A pattern.**  A repetition is greedy or lazy; a group captures what its body matches. -/
inductive Node
  | empty
  | atom (atom : Atom)
  | start
  | finish
  | sequence (first second : Node)
  | choice (first second : Node)
  | repetition (lazy : Bool) (least : Nat) (most : Option Nat) (body : Node)
  | group (index : Nat) (body : Node)
  deriving Repr

/-- How a pattern is matched: regardless of case, and with `.` for the line break too. -/
structure Modes where
  ignoreCase : Bool
  dotAll : Bool
  deriving DecidableEq, Repr

/-- **A pattern with its modes and its groups**, numbered from 1, some of them with names. -/
structure Compiled where
  node : Node
  modes : Modes
  groupCount : Nat
  names : List (String × Nat)
  deriving Repr

namespace SetItem

/-- The item holds the character; regardless of case it also holds what is equal to a member. -/
def holds (ignoreCase : Bool) (c : Char) : SetItem → Bool
  | single x => if ignoreCase then sameFold x c else x == c
  | range first last =>
    let inside (d : Char) : Bool := first.toNat ≤ d.toNat && d.toNat ≤ last.toNat
    if ignoreCase then (foldRelatives c).any inside else inside c
  | category k negated => negated != k.holds (if ignoreCase then lowerChar c else c)

end SetItem

/-- **The character pattern matches the character.** -/
def Atom.accepts (modes : Modes) (c : Char) : Atom → Bool
  | .char x => if modes.ignoreCase then sameFold x c else x == c
  | .any => modes.dotAll || c != '\n'
  | .set negated items => negated != items.any (·.holds modes.ignoreCase c)

namespace Node

/-- The sequence of some patterns. -/
def all : List Node → Node
  | [] => empty
  | [n] => n
  | n :: rest => sequence n (all rest)

/-- The characters of a word in sequence. -/
def word (cs : List Char) : Node := all (cs.map fun c => atom (.char c))

/-- As many characters as there are, or none. -/
def many (a : Atom) : Node := repetition false 0 none (atom a)

/-- As many characters as there are, at least one. -/
def some (a : Atom) : Node := repetition false 1 none (atom a)

/-- One or none. -/
def maybe (n : Node) : Node := repetition false 0 (Option.some 1) n

end Node

end AuditTrail.Pattern
