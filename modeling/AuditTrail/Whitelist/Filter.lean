import AuditTrail.Whitelist.Exemption

/-!
# Whitelist/Filter — trees of filters that exempt events from audit

A `Filter` is a tree whose leaves exempt nothing, the events of listed principals, or what the roles
of the principal are whitelisted for; a node exempts what one of its branches does.  `leaves` lists
the leaves from left to right.
-/

namespace AuditTrail

/-- **A filter.**  `byRole` names the source of its whitelists by a value of `σ`. -/
inductive Filter (σ : Type)
  | nothing
  | listed (principals : List String)
  | byRole (source : σ)
  | anyOf (filters : List (Filter σ))

namespace Filter

variable {σ : Type} {m : Type → Type} [Monad m]

/-- The leaves from left to right. -/
def leaves : Filter σ → List (Filter σ)
  | anyOf filters => filters.flatMap leaves
  | leaf => [leaf]

/-- A listed principal is exempt, but never on the connections: attempts to log in are always
audited. -/
def isListed (principals : List String) (e : Event) : Bool :=
  !e.resource.isConnection && principals.contains e.principal

/-- The decision of the roles of a principal. -/
def roleDecision (rolesOf : String → m (List String)) (lookup : String → m Whitelist) (e : Event) :
    m Bool := do
  AuditTrail.isExempt lookup (← rolesOf e.principal) e

mutual

/-- **The filter exempts the event**; the branches of a node are asked until one does.  `ask` is the
decision of the roles with a source. -/
def exempts (ask : σ → Event → m Bool) : Filter σ → Event → m Bool
  | nothing, _ => pure false
  | listed principals, e => pure (isListed principals e)
  | byRole source, e => ask source e
  | anyOf filters, e => anyExempts ask filters e

/-- One of the filters exempts the event; they are asked in turn until one does. -/
def anyExempts (ask : σ → Event → m Bool) : List (Filter σ) → Event → m Bool
  | [], _ => pure false
  | filter :: rest, e => do
    if ← exempts ask filter e then pure true else anyExempts ask rest e

end

/-- **The filter exempts the event**, where `rolesOf` gives the roles of a principal and `lookup` the
whitelist of a role in a source. -/
def isExempt (rolesOf : String → m (List String)) (lookup : σ → String → m Whitelist)
    (filter : Filter σ) (e : Event) : m Bool :=
  filter.exempts (fun source => roleDecision rolesOf (lookup source)) e

end Filter

end AuditTrail
