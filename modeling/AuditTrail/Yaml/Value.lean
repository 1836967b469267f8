import AuditTrail.Data
import AuditTrail.Yaml.Form
import AuditTrail.Yaml.Layout
import AuditTrail.Yaml.Node

/-!
# Yaml/Value — the values of documents

`Yaml.read` gives the value of a file.  A mapping takes over the entries of the mappings under its merge
key, its own entries win over them, and of two entries with one key the later one.  Values are built
level by level, so that of several failures the one at the least depth is reported, of these the first.
-/

namespace AuditTrail.Yaml

/-! ## Failures at a depth -/

/-- A value, or a failure with its turn. -/
abbrev Built (α : Type) := Except (Nat × Failure) α

namespace Built

/-- Two values side by side; of two failures the one whose turn is earlier, or else the first. -/
def both {α β : Type} (x : Built α) (y : Built β) : Built (α × β) :=
  match x, y with
  | .ok a, .ok b => .ok (a, b)
  | .error e, .ok _ => .error e
  | .ok _, .error e => .error e
  | .error e, .error later => .error (if later.1 < e.1 then later else e)

/-- A value, with a failure that came before it. -/
def following {α : Type} (before : Built Unit) (x : Built α) : Built α := (before.both x).map (·.2)

/-- A value that is built among the content at a depth. -/
def among {α : Type} (depth : Nat) (x : Except Failure α) : Built α :=
  x.mapError fun e => (2 * depth + 1, e)

/-- What is no document among the content at a depth. -/
def malformed {α : Type} (depth : Nat) : Built α := among depth (.error .malformed)

/-- A merge that is none; the merges of a mapping come before its content. -/
def badMerge {α : Type} (depth : Nat) : Built α := .error (2 * depth, .malformed)

/-- The outcome of a whole mapping, in which a merge counts as content at its depth. -/
def settled {α : Type} (depth : Nat) (x : Built α) : Built α :=
  x.mapError fun (turn, e) => (max turn (2 * depth + 1), e)

end Built

/-! ## Types of nodes -/

/-- The type that a tag gives, or else some type. -/
def kindOf (tag : Option String) (untagged : Kind) : Option Kind :=
  match tag with
  | some name => Kind.ofTag? name
  | none => some untagged

namespace Node

/-- **The type of a node**, if there is such a type. -/
def kind? : Node → Option Kind
  | scalar tag text plain => kindOf tag (if plain then Kind.ofPlain text.toList else .text)
  | sequence tag _ => kindOf tag .sequence
  | mapping tag _ => kindOf tag .mapping

mutual

/-- The text of a node that is a scalar, or that is a mapping with a scalar under its value key. -/
def scalarText? : Node → Option String
  | scalar _ text _ => some text
  | sequence _ _ => none
  | mapping _ entries => scalarTextIn? entries

/-- The text of the scalar under the value key. -/
def scalarTextIn? : List (Node × Node) → Option String
  | [] => none
  | (key, value) :: rest => if key.kind? = some .valueKey then scalarText? value else scalarTextIn? rest

end

end Node

/-! ## Scalars -/

/-- A truth value of a word in any case. -/
def readBoolean (text : String) : Except Failure Bool :=
  let word := String.ofList (Text.lower text.toList)
  match Kind.booleanWords.lookup word with
  | some b => .ok b
  | none => .error (.impossible .key word)

/-- A moment that exists. -/
def readMoment (text : String) : Except Failure String :=
  match Moment.parse? (Kind.withoutLineEnd text.toList) with
  | none => .error (.impossible .attribute "'NoneType' object has no attribute 'groupdict'")
  | some moment => match moment.defect? with
    | some reason => invalid reason
    | none => .ok moment.shown

/-- The value of a text as a scalar of a type. -/
def scalarValue (kind : Kind) (text : String) : Except Failure Data :=
  match kind with
  | .null => .ok .null
  | .boolean => .boolean <$> readBoolean text
  | .integer => .integer <$> readInteger text
  | .float => .number <$> readFloat text
  | .moment => .moment <$> readMoment text
  | .text => .ok (.text text)
  | _ => .error .malformed

/-- The value of a mapping as a scalar of a type, from the text under its value key; a moment is not read from
there. -/
def mappingValue (kind : Kind) (text : String) : Except Failure Data :=
  if kind = .moment then .error (.impossible .type "expected string or bytes-like object, got 'list'")
  else scalarValue kind text

/-! ## Mappings -/

/-- The value of a number or a truth value, by which keys are compared. -/
def numeric? : Data → Option Rat
  | .boolean b => some (if b then 1 else 0)
  | .integer i => some i
  | .number x => x.toRat?
  | _ => none

/-- Two keys are one. -/
def sameKey (a b : Data) : Bool :=
  match a, b with
  | .null, .null => true
  | .text s, .text t => s == t
  | .moment s, .moment t => s == t
  | .number (.infinite s), .number (.infinite t) => s == t
  | a, b => (numeric? a).isSome && numeric? a == numeric? b

/-- The entries with a further one, in place of that of the same key. -/
def putEntry (entries : List (Data × Data)) (entry : Data × Data) : List (Data × Data) :=
  if entries.any fun (key, _) => sameKey key entry.1 then
    entries.map fun (key, value) => if sameKey key entry.1 then (key, entry.2) else (key, value)
  else entries ++ [entry]

/-- The mapping of some entries. -/
def mappingOf (entries : List (Data × Data)) : Data := .mapping (entries.foldl putEntry [])

/-- The entries of a mapping: those taken over, and its own. -/
abbrev Merged := List (Data × Data) × List (Data × Data)

mutual

/-- The value of a node. -/
def build (depth : Nat) : Node → Built Data
  | .scalar tag text plain =>
    match (Node.scalar tag text plain).kind? with
    | some .sequence => .malformed (depth + 1)
    | some .mapping => .malformed (depth + 1)
    | some kind => .among depth (scalarValue kind text)
    | none => .malformed depth
  | .sequence tag items =>
    match kindOf tag .sequence with
    | some .sequence => .list <$> buildItems (depth + 1) items
    | some .mapping => .malformed (depth + 1)
    | _ => .malformed depth
  | .mapping tag entries =>
    match kindOf tag .mapping with
    | some .mapping =>
      (fun (m : Merged) => mappingOf (m.1 ++ m.2)) <$>
        Built.settled (depth + 1) (buildEntries (depth + 1) entries)
    | some .sequence => .malformed (depth + 1)
    | some kind => match Node.scalarTextIn? entries with
      | some text => .among depth (mappingValue kind text)
      | none => .malformed depth
    | none => .malformed depth

/-- The values of some nodes. -/
def buildItems (depth : Nat) : List Node → Built (List Data)
  | [] => .ok []
  | item :: rest => (fun (a, as) => a :: as) <$> (build depth item).both (buildItems depth rest)

/-- The entries of a mapping.  A key is a scalar. -/
def buildEntries (depth : Nat) : List (Node × Node) → Built Merged
  | [] => .ok ([], [])
  | (key, value) :: rest =>
    let others := buildEntries depth rest
    match key.kind? with
    | some .merge =>
      (fun (taken, merged, own) => (taken ++ merged, own)) <$> (mergeSource depth value).both others
    | some .sequence => Built.following (.malformed depth) others
    | some .mapping => Built.following (.malformed depth) others
    | some .valueKey =>
      (fun (v, merged, own) => (merged, (.text ((key.scalarText?).getD ""), v) :: own)) <$>
        (build depth value).both others
    | _ =>
      (fun ((k, v), merged, own) => (merged, (k, v) :: own)) <$>
        ((build depth key).both (build depth value)).both others

/-- The entries that the value of a merge key gives: those of a mapping, or of a list of mappings,
where the first ones win. -/
def mergeSource (depth : Nat) : Node → Built (List (Data × Data))
  | .mapping _ entries => (fun (m : Merged) => m.1 ++ m.2) <$> buildEntries depth entries
  | .sequence _ items => mergeSources depth items
  | .scalar _ _ _ => .badMerge depth

/-- The entries of a list of mappings, the last ones first. -/
def mergeSources (depth : Nat) : List Node → Built (List (Data × Data))
  | [] => .ok []
  | .mapping _ entries :: rest =>
    (fun ((m : Merged), later) => later ++ (m.1 ++ m.2)) <$>
      (buildEntries depth entries).both (mergeSources depth rest)
  | _ :: _ => .badMerge depth

end

/-- **The value of a node.** -/
def Node.value (node : Node) : Except Failure Data := (build 0 node).mapError (·.2)

/-- The value of a text. -/
def readText (text : List Char) : Except Failure Data := do
  match ← Node.ofTokens (tokens text) with
  | some node => node.value
  | none => return .null

/-- **The value of a file.** -/
def read (bytes : List UInt8) : Except Failure Data := do readText (← Source.ofBytes bytes)

end AuditTrail.Yaml
