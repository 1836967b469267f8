import AuditTrail.Yaml.Block
import AuditTrail.Yaml.Label
import AuditTrail.Yaml.Plain
import AuditTrail.Yaml.Quoted

/-!
# Yaml/Layout — the tokens of a text

`tokens` cuts a text into tokens, up to what is none.  Blocks are not marked in the text: one opens where a
key or a dash stands further right than the block around it, and closes where a line starts further left.
A key without a mark is known only by the colon after it, so the place where it started is kept as
`pending`, and its mark is put there later.
-/

namespace AuditTrail.Yaml

/-- **What may turn out to be a key**: the number of tokens before it and where it stands.  In a block
at its own column it has to be one. -/
structure PendingKey where
  tokensBefore : Nat
  index : Nat
  line : Nat
  column : Nat
  required : Bool

/-- **How far a text has been cut**: the tokens, newest first, the depth of brackets, the columns of the
open blocks, innermost first, whether a key may start here, and for each depth of brackets what may
turn out to be a key. -/
structure Layout where
  cursor : Cursor
  tokens : List Token
  depth : Nat
  indents : List Nat
  keyAllowed : Bool
  pending : List (Nat × PendingKey)

namespace Layout

/-- The start of a text. -/
def ofText (text : List Char) : Layout := ⟨.ofText text, [], 0, [], true, []⟩

/-- Brackets are open. -/
def inFlow (s : Layout) : Bool := s.depth != 0

/-- One token more. -/
def emit (s : Layout) (token : Token) : Layout := { s with tokens := token :: s.tokens }

/-- The tokens with one more after the first `count`. -/
def insertAt (s : Layout) (count : Nat) (token : Token) : Layout :=
  let later := s.tokens.length - count
  { s with tokens := s.tokens.take later ++ token :: s.tokens.drop later }

/-- Further in the text. -/
def goTo (s : Layout) (cursor : Cursor) : Layout := { s with cursor := cursor }

/-- A token of some characters. -/
def emitAcross (s : Layout) (width : Nat) (token : Token) : Layout :=
  (s.emit token).goTo (Cursor.skip width s.cursor)

/-! ## Blocks -/

/-- The blocks in columns at or left of a limit, with a token for each one closed. -/
def closeTo (inside : Nat → Bool) (s : Layout) : Layout :=
  let closed := s.indents.takeWhile (!inside ·)
  { s with
    tokens := List.replicate closed.length .closeBlock ++ s.tokens
    indents := s.indents.drop closed.length }

/-- Closing the blocks that the column of the next token is left of. -/
def closeBlocks (s : Layout) : Layout :=
  if s.inFlow then s else s.closeTo (· ≤ s.cursor.column)

/-- Closing all blocks. -/
def closeAll (s : Layout) : Layout := if s.inFlow then s else s.closeTo fun _ => false

/-- A block opens at this column. -/
def opensAt (s : Layout) (column : Nat) : Bool :=
  match s.indents with
  | [] => true
  | innermost :: _ => innermost < column

/-- Opening a block at a column with a token at a place, unless it is open. -/
def openBlock (s : Layout) (column tokensBefore : Nat) (token : Token) : Layout :=
  if s.opensAt column then
    { s.insertAt tokensBefore token with indents := column :: s.indents }
  else s

/-! ## Keys -/

/-- The pending key at the depth of brackets here. -/
def pendingHere? (s : Layout) : Option PendingKey := s.pending.lookup s.depth

/-- There is no key pending here any more; a required one would be missing its colon. -/
def dropPending (s : Layout) : Except Failure Layout :=
  match s.pendingHere? with
  | some key =>
    if key.required then .error .malformed
    else .ok { s with pending := s.pending.filter (·.1 != s.depth) }
  | none => .ok s

/-- The longest key, with the blanks after it. -/
def longestKey : Nat := 1024

/-- The pending key can no longer be one: it is on another line, or too far back. -/
def isStale (s : Layout) (key : PendingKey) : Bool :=
  key.line != s.cursor.line || longestKey < s.cursor.index - key.index

/-- Dropping the keys that can no longer be any. -/
def dropStale (s : Layout) : Except Failure Layout :=
  if s.pending.any fun (_, key) => key.required && s.isStale key then .error .malformed
  else .ok { s with pending := s.pending.filter fun (_, key) => !s.isStale key }

/-- What starts here may turn out to be a key. -/
def savePending (s : Layout) : Except Failure Layout :=
  if s.keyAllowed then do
    let kept ← s.dropPending
    let key : PendingKey := {
      tokensBefore := s.tokens.length
      index := s.cursor.index
      line := s.cursor.line
      column := s.cursor.column
      required := !s.inFlow && s.indents.head? == some s.cursor.column }
    return { kept with pending := (s.depth, key) :: kept.pending }
  else .ok s

/-! ## Tokens -/

/-- Past spaces, comments and line ends; in a block a key may start on a new line. -/
def skipToToken : (fuel : Nat) → Layout → Layout
  | 0, s => s
  | fuel + 1, s =>
    let c := s.cursor.skipSpaces
    let c := if c.head = '#' then c.skipWhile (!isLineEnd ·) else c
    match c.takeBreak? with
    | some (_, next) =>
      skipToToken fuel { s with cursor := next, keyAllowed := s.keyAllowed || !s.inFlow }
    | none => s.goTo c

/-- Past the mark of the byte order at the start of a text. -/
def skipByteOrderMark (s : Layout) : Layout :=
  if s.cursor.index = 0 ∧ s.cursor.head = Cursor.byteOrderMark then s.goTo s.cursor.advance else s

/-- All blocks are closed, and no key may start on the line. -/
def startLineMark (s : Layout) : Except Failure Layout := do
  return { ← s.closeAll.dropPending with keyAllowed := false }

/-- The mark that starts or ends a document. -/
def documentMark (s : Layout) (token : Token) : Except Failure Layout := do
  return (← s.startLineMark).emitAcross 3 token

/-- A directive. -/
def directive (s : Layout) : Except Failure Layout := do
  let s ← s.startLineMark
  let (token, after) ← Label.readDirective s.cursor
  return (s.emit token).goTo after

/-- An opening bracket. -/
def openBracket (s : Layout) (token : Token) : Except Failure Layout := do
  let s ← s.savePending
  return { s with depth := s.depth + 1, keyAllowed := true }.emitAcross 1 token

/-- A closing bracket. -/
def closeBracket (s : Layout) (token : Token) : Except Failure Layout := do
  let s ← s.dropPending
  if s.depth = 0 then throw .malformed
  return { s with depth := s.depth - 1, keyAllowed := false }.emitAcross 1 token

/-- A comma between the entries in brackets. -/
def comma (s : Layout) : Except Failure Layout := do
  return { ← s.dropPending with keyAllowed := true }.emitAcross 1 .comma

/-- The mark of an entry or a key, which in a block may open one. -/
def blockMark (s : Layout) (opening token : Token) (keyAfter : Bool) : Except Failure Layout := do
  if !s.inFlow && !s.keyAllowed then throw .malformed
  let opened := if s.inFlow then s else s.openBlock s.cursor.column s.tokens.length opening
  return { ← opened.dropPending with keyAllowed := keyAfter }.emitAcross 1 token

/-- The colon after a key without a mark. -/
def valueOfPending (s : Layout) (key : PendingKey) : Layout :=
  let s := { s with pending := s.pending.filter (·.1 != s.depth), keyAllowed := false }
  let marked := s.insertAt key.tokensBefore .key
  let opened := if s.inFlow then marked else marked.openBlock key.column key.tokensBefore .openMapping
  opened.emitAcross 1 .value

/-- The colon before a value. -/
def value (s : Layout) : Except Failure Layout :=
  match s.pendingHere? with
  | some key => .ok (s.valueOfPending key)
  | none => s.blockMark .openMapping .value !s.inFlow

/-- Something that may be a key, after which none may start. -/
def content (s : Layout) (read : Cursor → Except Failure (Token × Cursor)) : Except Failure Layout := do
  let s ← s.savePending
  let (token, after) ← read s.cursor
  return { (s.emit token).goTo after with keyAllowed := false }

/-- The least indentation of what belongs to the innermost block. -/
def contentIndent (s : Layout) : Nat :=
  match s.indents with
  | [] => 0
  | innermost :: _ => innermost + 1

/-- A block scalar, after which a key may start. -/
def blockScalar (s : Layout) : Except Failure Layout := do
  let s ← s.dropPending
  let (text, after) ← Block.read (max s.contentIndent 1) s.cursor
  return { (s.emit (.scalar (String.ofList text) false)).goTo after with keyAllowed := true }

/-- A plain scalar; if it has read the end of its last line, a key may start. -/
def plainScalar (s : Layout) : Except Failure Layout := do
  let s ← s.savePending
  let scalar := Plain.read s.inFlow s.contentIndent s.cursor
  return { (s.emit (.scalar (String.ofList scalar.text) true)).goTo scalar.after with
    keyAllowed := scalar.endsLine }

/-- A scalar in quotes, as a token. -/
def quotedToken (c : Cursor) : Except Failure (Token × Cursor) :=
  (Quoted.read c).map fun (text, after) => (.scalar (String.ofList text) false, after)

/-- The marks that no plain scalar starts with, unless something follows them directly. -/
def startsPlain (inFlow : Bool) (c : Cursor) : Bool :=
  !isGap c.head && !("-?:,[]\x7b\x7d#&*!|>'\"%@\x60".toList.contains c.head) ||
    !isGap (c.peek 1) && (c.head == '-' || !inFlow && (c.head == '?' || c.head == ':'))

/-- **The token that starts here.** -/
def nextToken (s : Layout) : Except Failure Layout :=
  let c := s.cursor
  let loose := isGap (c.peek 1)
  match c.head with
  | '%' => if c.column = 0 then s.directive else .error .malformed
  | '[' => s.openBracket .leftBracket
  | '\x7b' => s.openBracket .leftBrace
  | ']' => s.closeBracket .rightBracket
  | '\x7d' => s.closeBracket .rightBrace
  | ',' => s.comma
  | '*' => s.content fun c => (Label.readAnchor c).map fun (name, after) => (.alias name, after)
  | '&' => s.content fun c => (Label.readAnchor c).map fun (name, after) => (.anchor name, after)
  | '!' => s.content Label.readTag
  | '\'' => s.content quotedToken
  | '"' => s.content quotedToken
  | head =>
    if c.column = 0 ∧ c.hasTriple '-' then s.documentMark .documentStart
    else if c.column = 0 ∧ c.hasTriple '.' then s.documentMark .documentEnd
    else if head = '-' ∧ loose then s.blockMark .openSequence .dash true
    else if head = '?' ∧ (s.inFlow || loose) then s.blockMark .openMapping .key !s.inFlow
    else if head = ':' ∧ (s.inFlow || loose) then s.value
    else if (head = '|' ∨ head = '>') ∧ !s.inFlow then s.blockScalar
    else if startsPlain s.inFlow c then s.plainScalar
    else .error .malformed

/-- One token more, or all blocks closed at the end of the text, which is told beside it. -/
def step (s : Layout) : Except Failure (Layout × Bool) := do
  let s := s.skipByteOrderMark.skipToToken (s.cursor.rest.length + 1)
  let s ← s.dropStale
  let s := s.closeBlocks
  if s.cursor.atEnd then return (← s.closeAll.dropPending, true) else return (← s.nextToken, false)

/-- The tokens before the first that may turn out to be a key; a mark may yet come before that one. -/
def settled (s : Layout) : List Token :=
  let live := s.pending.filter fun (_, key) => !s.isStale key
  s.tokens.reverse.take (live.foldl (fun count (_, key) => min count key.tokensBefore) s.tokens.length)

/-- The tokens from here on. -/
def toEnd : (fuel : Nat) → Layout → Scanned
  | 0, s => ⟨s.settled, some .malformed⟩
  | fuel + 1, s =>
    match s.step with
    | .error failure => ⟨s.settled, some failure⟩
    | .ok (last, true) => ⟨last.tokens.reverse, none⟩
    | .ok (next, false) => toEnd fuel next

end Layout

/-- **The tokens of a text.** -/
def tokens (text : List Char) : Scanned := (Layout.ofText text).toEnd (text.length + 1)

end AuditTrail.Yaml
