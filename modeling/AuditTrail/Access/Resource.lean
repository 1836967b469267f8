import AuditTrail.Access.Permission

/-!
# Access/Resource — what an audited operation accesses

    data → data/ks → data/ks/tbl            roles → roles/name
    functions → functions/ks → functions/ks/fn(int)        connections

Resources form four trees, one for each `ResourceKind`; `Resource.parent` leads towards the root and
`Resource.chain` lists a resource with all of its ancestors.  Two resources are the `same` when kind
and name agree, and `accepts` holds when a resource is the same as one of another's chain.
-/

namespace AuditTrail

/-- The four trees of resources. -/
inductive ResourceKind
  | connection | data | role | function
  deriving DecidableEq, Repr

/-- The name of the root of a tree. -/
def ResourceKind.root : ResourceKind → String
  | .connection => "connections"
  | .data => "data"
  | .role => "roles"
  | .function => "functions"

/-- **A resource**: a root, or a node below it. -/
inductive Resource
  | connections
  | allData
  | keyspace (keyspace : String)
  | table (keyspace table : String)
  | allRoles
  | role (role : String)
  | allFunctions
  | functionsOf (keyspace : String)
  | function (keyspace signature : String)
  deriving DecidableEq, Repr

namespace Resource

/-- The tree of a resource. -/
def kind : Resource → ResourceKind
  | connections => .connection
  | allData | keyspace _ | table _ _ => .data
  | allRoles | role _ => .role
  | allFunctions | functionsOf _ | function _ _ => .function

/-- The parts of the name below the root. -/
def components : Resource → List String
  | connections | allData | allRoles | allFunctions => []
  | keyspace k => [k]
  | table k t => [k, t]
  | role r => [r]
  | functionsOf k => [k]
  | function k s => [k, s]

/-- The canonical name: the root and the parts below it, between slashes. -/
def name (r : Resource) : String := "/".intercalate (r.kind.root :: r.components)

/-- The next resource towards the root. -/
def parent : Resource → Option Resource
  | connections | allData | allRoles | allFunctions => none
  | keyspace _ => some allData
  | table k _ => some (keyspace k)
  | role _ => some allRoles
  | functionsOf _ => some allFunctions
  | function k _ => some (functionsOf k)

/-- **The resource followed by its ancestors**, up to the root. -/
def chain : Resource → List Resource
  | table k t => [table k t, keyspace k, allData]
  | keyspace k => [keyspace k, allData]
  | role r => [role r, allRoles]
  | function k s => [function k s, functionsOf k, allFunctions]
  | functionsOf k => [functionsOf k, allFunctions]
  | connections => [connections]
  | allData => [allData]
  | allRoles => [allRoles]
  | allFunctions => [allFunctions]

/-- The chain starts with the resource and goes on with its parent's chain. -/
theorem chain_eq (r : Resource) :
    r.chain = r :: (match r.parent with | some p => p.chain | none => []) := by
  cases r <;> rfl

/-- The permissions that apply to a resource. -/
def permissions : Resource → List Permission
  | connections => [.authorize, .execute]
  | allData | keyspace _ => [.create, .alter, .drop, .select, .modify, .authorize]
  | table _ _ => [.alter, .drop, .select, .modify, .authorize]
  | allRoles => [.create, .alter, .drop, .authorize, .describe]
  | role _ => [.alter, .drop, .authorize]
  | allFunctions | functionsOf _ => [.create, .alter, .drop, .authorize, .execute]
  | function _ _ => [.alter, .drop, .authorize, .execute]

/-- **The same resource**: of one tree and of one name. -/
def same (a b : Resource) : Bool := a.kind == b.kind && a.name == b.name

/-- The resource is a role, or the root of all roles. -/
def isRole (r : Resource) : Bool := r.kind == .role

/-- The resource is the root of the connections. -/
def isConnection (r : Resource) : Bool := r.kind == .connection

end Resource

/-- **A whitelisted resource accepts a resource** when it is the same as the resource or as one of
its ancestors. -/
def accepts (whitelisted resource : Resource) : Bool := resource.chain.any (·.same whitelisted)

end AuditTrail
