import AuditTrail.Access.Resource
import AuditTrail.Text.Blank
import AuditTrail.Text.Case
import AuditTrail.Text.Quoted

/-!
# Access/Name — reading resources from names and from parts

`Resource.parse` reads a canonical name, with blanks around it and the root in any case.
`Resource.ofParts` builds a resource from optional parts, where a part below a missing one is an
error.
-/

namespace AuditTrail

open AuditTrail.Text

/-- **Why there is no such resource.** -/
inductive ResourceError
  | invalidName (name : String)
  | tableWithoutKeyspace
  | functionWithoutKeyspace
  deriving DecidableEq, Repr

/-- The text of the error. -/
def ResourceError.message : ResourceError → String
  | .invalidName name => quote name ++ " is not a valid resource name"
  | .tableWithoutKeyspace => "A table resource requires a keyspace"
  | .functionWithoutKeyspace => "A function resource requires a keyspace"

namespace Resource

/-- The resource of a root and the parts below it, if the tree is that deep. -/
def ofPath? (root : String) (parts : List String) : Option Resource :=
  match root, parts with
  | "connections", [] => some connections
  | "data", [] => some allData
  | "data", [k] => some (keyspace k)
  | "data", [k, t] => some (table k t)
  | "roles", [] => some allRoles
  | "roles", [r] => some (role r)
  | "functions", [] => some allFunctions
  | "functions", [k] => some (functionsOf k)
  | "functions", [k, s] => some (function k s)
  | _, _ => none

/-- The text of a name between blanks, cut at the slashes. -/
def path (name : String) : List (List Char) := (strip name.toList).splitOn '/'

/-- **Reading a name**: no part may be empty, and the root is compared in lower case. -/
def parse (name : String) : Except ResourceError Resource :=
  let parts := path name
  if parts.any List.isEmpty then .error (.invalidName name)
  else
    match parts with
    | [] => .error (.invalidName name)
    | root :: below =>
      match ofPath? (String.ofList (lower root)) (below.map String.ofList) with
      | some r => .ok r
      | none => .error (.invalidName name)

/-- **The resource of a tree with up to two parts**; the second is allowed only below the first, and
trees that are less deep ignore what they cannot hold. -/
def ofParts : ResourceKind → (first second : Option String) → Except ResourceError Resource
  | .connection, _, _ => .ok connections
  | .data, none, none => .ok allData
  | .data, some k, none => .ok (keyspace k)
  | .data, some k, some t => .ok (table k t)
  | .data, none, some _ => .error .tableWithoutKeyspace
  | .role, none, _ => .ok allRoles
  | .role, some r, _ => .ok (role r)
  | .function, none, none => .ok allFunctions
  | .function, some k, none => .ok (functionsOf k)
  | .function, some k, some s => .ok (function k s)
  | .function, none, some _ => .error .functionWithoutKeyspace

/-- The word for a resource of a tree. -/
def kindWord : ResourceKind → String
  | .connection => "ConnectionResource"
  | .data => "DataResource"
  | .role => "RoleResource"
  | .function => "FunctionResource"

/-- The resource as it is shown: its kind and its name in angle brackets. -/
def shown (r : Resource) : String := "<" ++ kindWord r.kind ++ " " ++ r.name ++ ">"

end Resource

end AuditTrail
