import AuditTrail.Number.Binary64

/-!
# Data — values without a schema

`Data` is what a JSON or YAML document holds before its form is checked.  The keys of a mapping are
values too, since YAML allows any scalar there.
-/

namespace AuditTrail

open AuditTrail.Number

/-- **A value read from a document.**  `moment` is a date or a time of day on a date, of which only
the shown form matters. -/
inductive Data
  | null
  | boolean (value : Bool)
  | integer (value : Int)
  | number (value : Binary64)
  | text (value : String)
  | moment (shown : String)
  | list (items : List Data)
  | mapping (entries : List (Data × Data))
  deriving Inhabited, Repr

namespace Data

/-- The value of a text key in a mapping. -/
def field? (name : String) : Data → Option Data
  | mapping entries => entries.findSome? fun
    | (text key, value) => if key = name then some value else none
    | _ => none
  | _ => none

/-- A mapping with text keys. -/
def ofFields (fields : List (String × Data)) : Data := mapping (fields.map fun (k, v) => (text k, v))

end Data

end AuditTrail
