import AuditTrail.Number.Decimal
import AuditTrail.Schema.Scalar

/-!
# Schema/Composite — checks of lists and of mappings

`listOf` and `setOf` check every item at its index, `pairOf` a list of two.  `required` and
`optional` check a field of a mapping, `noOtherKeys` refuses the keys that are no field.
-/

namespace AuditTrail.Schema

open AuditTrail.Number

/-- The check of each item under its index. -/
def items {α : Type} (check : Data → Checked α) (values : List Data) : Checked (List α) :=
  .all ((values.zipIdx).map fun (value, i) => (check value).under (toString i))

/-- **A list.** -/
def listOf {α : Type} (check : Data → Checked α) : Data → Checked (List α)
  | .list values => items check values
  | _ => .defect .listType

/-- **A set**, given as a list; repeated values count once. -/
def setOf {α : Type} [BEq α] (check : Data → Checked α) : Data → Checked (List α)
  | .list values => (List.eraseDups ·) <$> items check values
  | _ => .defect .frozenSetType

/-- **A pair**, given as a list of two. -/
def pairOf {α : Type} (check : Data → Checked α) : Data → Checked (α × α)
  | .list [a, b] => Prod.mk <$> (check a).under "0" <*> (check b).under "1"
  | .list [a] => Prod.mk <$> (check a).under "0" <*> (Checked.defect .missing).under "1"
  | .list [] => Prod.mk <$> (Checked.defect .missing).under "0" <*> (Checked.defect .missing).under "1"
  | .list _ => .defect .tooLong
  | _ => .defect .tupleType

/-- The entries of a mapping. -/
abbrev Entries := List (Data × Data)

/-- The value of a field. -/
def fieldOf? (name : String) (entries : Entries) : Option Data := (Data.mapping entries).field? name

/-- **A field that has to be there.** -/
def required {α : Type} (name : String) (check : Data → Checked α) (entries : Entries) : Checked α :=
  match fieldOf? name entries with
  | some value => (check value).under name
  | none => (Checked.defect .missing).under name

/-- **A field with a default.** -/
def optional {α : Type} (name : String) (absent : α) (check : Data → Checked α) (entries : Entries) :
    Checked α :=
  match fieldOf? name entries with
  | some value => (check value).under name
  | none => .valid absent

/-- A key that is no text, as a place names it. -/
def keyText : Data → String
  | .null => "None"
  | .boolean b => if b then "1" else "0"
  | .integer i => String.ofList (integerText i)
  | .number x => String.ofList x.shortest
  | .text s => s
  | .moment shown => shown
  | .list _ => "[]"
  | .mapping _ => "\x7b\x7d"

/-- The issue of a key that is no field. -/
def keyIssue? (fields : List String) : Data → Option Issue
  | .text key => if fields.contains key then none else some ⟨[key], .extraForbidden⟩
  | key => some ⟨[keyText key], .invalidKey⟩

/-- **Refusing the keys that are no field.** -/
def noOtherKeys (fields : List String) (entries : Entries) : Checked Unit :=
  match entries.filterMap fun entry => keyIssue? fields entry.1 with
  | [] => .valid ()
  | issues => .invalid issues

/-- **A mapping** whose entries pass a check. -/
def record {α : Type} (check : Entries → Checked α) : Data → Checked α
  | .mapping entries => check entries
  | _ => .defect .modelType

/-- A mapping that has no other keys than its fields. -/
def closedRecord {α : Type} (fields : List String) (check : Entries → Checked α) : Data → Checked α :=
  record fun entries => (fun value _ => value) <$> check entries <*> noOtherKeys fields entries

end AuditTrail.Schema
