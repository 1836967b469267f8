import AuditTrail.Yaml.Token

/-!
# Yaml/Node — documents as trees

`Node.ofTokens` reads tokens as the one node that a text holds, or none if the text is empty.  Where the text
could not be cut further, it fails for that reason when it needs more tokens.  An alias
stands for the node of that anchor; inside that node itself it stands for an empty node of the same
kind.
-/

namespace AuditTrail.Yaml

/-- **A node** with its tag.  The type of a plain scalar without a tag comes from its form. -/
inductive Node
  | scalar (tag : Option String) (text : String) (plain : Bool)
  | sequence (tag : Option String) (items : List Node)
  | mapping (tag : Option String) (entries : List (Node × Node))
  deriving Inhabited

namespace Node

/-- The value that nothing stands for. -/
def empty : Node := scalar none "" true

end Node

/-- **What is known while tokens are read**: the tokens left, why there are no more after them, the text of
each handle, and the nodes of the anchors. -/
structure Reader where
  tokens : List Token
  stop : Option Failure
  handles : List (String × String)
  anchored : List (String × Node)

/-- Reading tokens. -/
abbrev Reading := StateT Reader (Except Failure)

namespace Reading

/-- The next token, if there is one. -/
def peek : Reading (Option Token) := do
  let r ← get
  match r.tokens, r.stop with
  | token :: _, _ => return some token
  | [], none => return none
  | [], some failure => throw failure

/-- Past the next token. -/
def drop : Reading Unit := modify fun r => { r with tokens := r.tokens.drop 1 }

/-- The next token is one of some. -/
def sees (tokens : List Token) : Reading Bool := do
  return ((← peek).map tokens.contains).getD false

/-- Past the next token if it is this one. -/
def takes (token : Token) : Reading Bool := do
  if ← sees [token] then drop; return true else return false

/-- The text is no document. -/
def refuse {α : Type} : Reading α := throw .malformed

/-- Past the next token, which has to be this one. -/
def expect (token : Token) : Reading Unit := do if !(← takes token) then refuse

/-! ## Properties of nodes -/

/-- The anchor of a node and its tag. -/
structure Properties where
  anchor : Option String
  tag : Option String

/-- A tag as it is written, if one comes next. -/
def tag? : Reading (Option (Option String × String)) := do
  match ← peek with
  | some (.tag handle suffix) => drop; return some (handle, suffix)
  | _ => return none

/-- An anchor, if one comes next. -/
def anchor? : Reading (Option String) := do
  match ← peek with
  | some (.anchor name) => drop; return some name
  | _ => return none

/-- The whole text of a tag; a lone exclamation mark is no tag. -/
def wholeTag (handle : Option String) (suffix : String) : Reading String :=
  match handle with
  | none => return suffix
  | some name => do
    match (← get).handles.lookup name with
    | some text => return text ++ suffix
    | none => refuse

/-- The properties of a node, in either order. -/
def properties : Reading Properties := do
  let first ← anchor?
  let written ← tag?
  let second ← if first.isNone && written.isSome then anchor? else pure none
  let tag ← match written with
    | some (handle, suffix) => some <$> wholeTag handle suffix
    | none => pure none
  return ⟨first.or second, tag⟩

/-- Giving a node to an anchor that has none. -/
def name (anchor : Option String) (node : Node) : Reading Unit :=
  match anchor with
  | none => return
  | some label => do
    if ((← get).anchored.lookup label).isSome then refuse
    modify fun r => { r with anchored := (label, node) :: r.anchored }

/-- Giving the finished node to its anchor. -/
def rename (anchor : Option String) (node : Node) : Reading Node := do
  match anchor with
  | none => return node
  | some label =>
    modify fun r => { r with anchored := (label, node) :: r.anchored }
    return node

/-- The node of an alias. -/
def aliased (label : String) : Reading Node := do
  match (← get).anchored.lookup label with
  | some node => return node
  | none => refuse

/-! ## Nodes -/

/-- Where a node stands: between brackets, in a block, or as the key or value of a block mapping, where
a sequence need not be indented. -/
inductive Position
  | flow | block | entry
  deriving DecidableEq

/-- A tag that leaves the type to the form of a scalar. -/
def isOpenTag (tag : Option String) : Bool := tag == none || tag == some "!"

/-- The tag, unless it leaves the type open. -/
def definite (tag : Option String) : Option String := if isOpenTag tag then none else tag

mutual

/-- A node; nodes nest at most `fuel` deep. -/
def node (position : Position) : (fuel : Nat) → Reading Node
  | 0 => refuse
  | fuel + 1 => do
    match ← peek with
    | some (.alias label) => drop; aliased label
    | _ =>
      let p ← properties
      let tag := definite p.tag
      match position, ← peek with
      | .entry, some .dash =>
        name p.anchor (.sequence tag [])
        rename p.anchor (.sequence tag (← looseItems fuel))
      | _, some (.scalar text plain) =>
        drop
        let node := Node.scalar tag text (if p.tag.isNone then plain else tag.isNone)
        name p.anchor node
        return node
      | _, some .leftBracket =>
        drop
        name p.anchor (.sequence tag [])
        rename p.anchor (.sequence tag (← flowItems true fuel))
      | _, some .leftBrace =>
        drop
        name p.anchor (.mapping tag [])
        rename p.anchor (.mapping tag (← flowEntries true fuel))
      | position, some token =>
        if position ≠ .flow ∧ token = .openSequence then
          drop
          name p.anchor (.sequence tag [])
          rename p.anchor (.sequence tag (← blockItems fuel))
        else if position ≠ .flow ∧ token = .openMapping then
          drop
          name p.anchor (.mapping tag [])
          rename p.anchor (.mapping tag (← blockEntries fuel))
        else withoutContent p
      | _, none => withoutContent p

/-- A node with properties and nothing else. -/
def withoutContent (p : Properties) : Reading Node := do
  if p.anchor.isNone && p.tag.isNone then refuse
  let node := Node.scalar (definite p.tag) "" (isOpenTag p.tag)
  name p.anchor node
  return node

/-- A node, unless one of some tokens comes next. -/
def nodeUnless (position : Position) (ends : List Token) : (fuel : Nat) → Reading Node
  | 0 => refuse
  | fuel + 1 => do if ← sees ends then return .empty else node position fuel

/-- The items of a block sequence. -/
def blockItems : (fuel : Nat) → Reading (List Node)
  | 0 => refuse
  | fuel + 1 => do
    if ← takes .dash then
      let item ← nodeUnless .block [.dash, .closeBlock] fuel
      return item :: (← blockItems fuel)
    else expect .closeBlock; return []

/-- The items of a sequence that is not indented. -/
def looseItems : (fuel : Nat) → Reading (List Node)
  | 0 => refuse
  | fuel + 1 => do
    if ← takes .dash then
      let item ← nodeUnless .block [.dash, .key, .value, .closeBlock] fuel
      return item :: (← looseItems fuel)
    else return []

/-- The value of a block mapping's key. -/
def blockValue : (fuel : Nat) → Reading Node
  | 0 => refuse
  | fuel + 1 => do
    if ← takes .value then nodeUnless .entry [.key, .value, .closeBlock] fuel else return .empty

/-- The entries of a block mapping. -/
def blockEntries : (fuel : Nat) → Reading (List (Node × Node))
  | 0 => refuse
  | fuel + 1 => do
    if ← takes .key then
      let key ← nodeUnless .entry [.key, .value, .closeBlock] fuel
      let value ← blockValue fuel
      return (key, value) :: (← blockEntries fuel)
    else expect .closeBlock; return []

/-- The value of a key between brackets. -/
def flowValue (ends : List Token) : (fuel : Nat) → Reading Node
  | 0 => refuse
  | fuel + 1 => do if ← takes .value then nodeUnless .flow ends fuel else return .empty

/-- The items of a sequence in brackets; one with a key mark is a mapping of one entry. -/
def flowItems (first : Bool) : (fuel : Nat) → Reading (List Node)
  | 0 => refuse
  | fuel + 1 => do
    if ← takes .rightBracket then return []
    if !first then expect .comma
    if ← takes .key then
      let key ← nodeUnless .flow [.value, .comma, .rightBracket] fuel
      let value ← flowValue [.comma, .rightBracket] fuel
      return .mapping none [(key, value)] :: (← flowItems false fuel)
    else if ← takes .rightBracket then return []
    else
      let item ← node .flow fuel
      return item :: (← flowItems false fuel)

/-- The entries of a mapping in braces. -/
def flowEntries (first : Bool) : (fuel : Nat) → Reading (List (Node × Node))
  | 0 => refuse
  | fuel + 1 => do
    if ← takes .rightBrace then return []
    if !first then expect .comma
    if ← takes .key then
      let key ← nodeUnless .flow [.value, .comma, .rightBrace] fuel
      let value ← flowValue [.comma, .rightBrace] fuel
      return (key, value) :: (← flowEntries false fuel)
    else if ← takes .rightBrace then return []
    else
      let key ← node .flow fuel
      return (key, .empty) :: (← flowEntries false fuel)

end

/-! ## Documents -/

/-- The handles that need no directive. -/
def defaultHandles : List (String × String) := [("!", "!"), ("!!", "tag:yaml.org,2002:")]

/-- The directives before a document; the version and each handle are given once. -/
def directives : (fuel : Nat) → (versioned : Bool) → List (String × String) →
    Reading (List (String × String))
  | 0, _, _ => refuse
  | fuel + 1, versioned, handles => do
    match ← peek with
    | some (.directive content) =>
      drop
      match content with
      | .version major => if versioned || major != 1 then refuse else directives fuel true handles
      | .handle label text =>
        if (handles.lookup label).isSome then refuse
        else directives fuel versioned ((label, text) :: handles)
      | .unknown => directives fuel versioned handles
    | _ => return handles

/-- Past all marks for the end of a document. -/
def dropEnds : Reading Unit :=
  modify fun r => { r with tokens := r.tokens.dropWhile (· == .documentEnd) }

/-- The tokens that start or end a document. -/
def isDocumentMark : Token → Bool
  | .directive _ => true
  | .documentStart => true
  | .documentEnd => true
  | _ => false

/-- A document after its start mark. -/
def explicitDocument (fuel : Nat) : Reading (Option Node) := do
  let handles ← directives fuel false []
  modify fun r => { r with handles := handles ++ defaultHandles }
  expect .documentStart
  match ← peek with
  | none => return some .empty
  | some token => if isDocumentMark token then return some .empty else some <$> node .block fuel

/-- The only document of a text. -/
def document (fuel : Nat) : Reading (Option Node) := do
  match ← peek with
  | none => return none
  | some (.directive _) => explicitDocument fuel
  | some .documentStart => explicitDocument fuel
  | some _ => some <$> node .block fuel

/-- The document of a text that holds no other. -/
def onlyDocument (fuel : Nat) : Reading (Option Node) := do
  let found ← document fuel
  dropEnds
  if (← peek).isSome then refuse
  return found

end Reading

/-- **The node that tokens stand for.** -/
def Node.ofTokens (scanned : Scanned) : Except Failure (Option Node) :=
  ((Reading.onlyDocument (4 * scanned.tokens.length + 4)).run
    ⟨scanned.tokens, scanned.stop, Reading.defaultHandles, []⟩).map (·.1)

end AuditTrail.Yaml
