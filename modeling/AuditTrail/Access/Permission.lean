/-!
# Access/Permission — the kinds of access an audited operation performs
-/

namespace AuditTrail

/-- **The kinds of access.** -/
inductive Permission
  | create | alter | drop | select | modify | authorize | describe | execute
  deriving DecidableEq, Repr

namespace Permission

/-- Every permission. -/
def all : List Permission :=
  [.create, .alter, .drop, .select, .modify, .authorize, .describe, .execute]

/-- The name of a permission. -/
def name : Permission → String
  | .create => "CREATE"
  | .alter => "ALTER"
  | .drop => "DROP"
  | .select => "SELECT"
  | .modify => "MODIFY"
  | .authorize => "AUTHORIZE"
  | .describe => "DESCRIBE"
  | .execute => "EXECUTE"

/-- The permission of a name, which is compared exactly. -/
def ofName? (name : String) : Option Permission := all.find? (·.name == name)

end Permission

end AuditTrail
