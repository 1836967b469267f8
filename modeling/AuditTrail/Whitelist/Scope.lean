import AuditTrail.Access.Name

/-!
# Whitelist/Scope — the operations a whitelist entry is about

A `Scope` is every operation or those of one permission.  `Scope.parse` reads its name with blanks
around it and in any case, and `Scope.verify` refuses a permission that does not apply to a resource.
-/

namespace AuditTrail

open AuditTrail.Text

/-- **Which operations an entry exempts.** -/
inductive Scope
  | all
  | only (permission : Permission)
  deriving DecidableEq, Repr

/-- **Why a whitelist request is refused.** -/
inductive WhitelistError
  | unknownOperation (key : String)
  | notApplicable (permission : Permission) (resource : Resource)
  | unknownOption (option : String)
  | invalidResource (name : String) (error : ResourceError)
  deriving DecidableEq, Repr

/-- The text of the error. -/
def WhitelistError.message : WhitelistError → String
  | .unknownOperation key => "Invalid whitelist option: unknown operation '" ++ key ++ "'"
  | .notApplicable permission resource =>
    "Operation " ++ permission.name ++ " is not applicable on " ++ resource.name
  | .unknownOption option => "Invalid whitelist operation option: " ++ option
  | .invalidResource name error =>
    "Unable to parse whitelisted resource [" ++ name ++ "]: " ++ error.message

namespace Scope

/-- The name of a scope. -/
def name : Scope → String
  | .all => "ALL"
  | .only permission => permission.name

/-- The scope of a name, which is compared exactly. -/
def ofName? (name : String) : Option Scope :=
  if name = "ALL" then some .all else (Permission.ofName? name).map .only

/-- **Reading a scope**: the text between blanks, in upper case. -/
def parse (text : String) : Except WhitelistError Scope :=
  let key := String.ofList (upper (strip text.toList))
  match ofName? key with
  | some scope => .ok scope
  | none => .error (.unknownOperation key)

/-- The scope may be whitelisted on the resource. -/
def applies (scope : Scope) (resource : Resource) : Bool :=
  match scope with
  | .all => true
  | .only permission => resource.permissions.contains permission

/-- **Refusing** a permission that does not apply to the resource. -/
def verify (scope : Scope) (resource : Resource) : Except WhitelistError Unit :=
  match scope with
  | .all => .ok ()
  | .only permission =>
    if resource.permissions.contains permission then .ok ()
    else .error (.notApplicable permission resource)

/-- Refusing a permission that does not apply to one of the resources. -/
def verifyAll (scope : Scope) (resources : List Resource) : Except WhitelistError Unit :=
  resources.forM scope.verify

end Scope

end AuditTrail
