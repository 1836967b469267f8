import AuditTrail.Event.Basic
import AuditTrail.Whitelist.Store

/-!
# Whitelist/Exemption — the decision that a role based whitelist makes

`isExempt` asks the whitelists of the roles in turn: every permission of the event has to be covered
by some role.  It works in any monad, so the same decision is made over failing, cached and counted
lookups.
-/

namespace AuditTrail

/-- The scopes that cover a permission; without a permission only the scope of everything does. -/
def scopesFor : Option Permission → List Scope
  | none => [.all]
  | some permission => [.all, .only permission]

/-- The whitelist covers a permission on a resource. -/
def Whitelist.covers (w : Whitelist) (permission : Option Permission) (resource : Resource) : Bool :=
  (scopesFor permission).any fun scope => (w.bucket scope).any (accepts · resource)

/-- The permissions that have to be covered: those of the event, or none in particular. -/
def Event.asked (e : Event) : List (Option Permission) :=
  if e.permissions.isEmpty then [none] else e.permissions.map some

variable {m : Type → Type} [Monad m]

/-- Some role covers the permission; roles are asked until one does. -/
def isCovered (lookup : String → m Whitelist) (roles : List String) (resource : Resource)
    (permission : Option Permission) : m Bool :=
  roles.anyM fun role => do return (← lookup role).covers permission resource

/-- **The event is exempt** when it has roles and every permission is covered; permissions are asked
until one is not. -/
def isExempt (lookup : String → m Whitelist) (roles : List String) (e : Event) : m Bool :=
  if roles.isEmpty then pure false
  else e.asked.allM (isCovered lookup roles e.resource)

end AuditTrail
