import AuditTrail.Whitelist.Request

/-!
# Whitelist/Store — the whitelists of all roles

A `Store` keeps one bucket of resources for each role and scope.  `grant` adds resources after every
one of them has been verified, `revoke` takes them out and drops a bucket that becomes empty,
`lookup` gives the `Whitelist` of a role.  No bucket holds two resources that are the same.
-/

namespace AuditTrail

/-- **The whitelist of one role**: the resources of each scope. -/
abbrev Whitelist := List (Scope × List Resource)

namespace Whitelist

/-- The resources of a scope. -/
def bucket (w : Whitelist) (scope : Scope) : List Resource := (w.lookup scope).getD []

end Whitelist

/-- The place of a bucket: a role and a scope. -/
abbrev BucketKey := String × Scope

/-- **The whitelists of all roles.** -/
structure Store where
  buckets : List (BucketKey × List Resource)
  deriving Repr

namespace Store

/-- The store without whitelists. -/
def empty : Store := ⟨[]⟩

/-- The bucket at a place, if there is one. -/
def bucket? (store : Store) (key : BucketKey) : Option (List Resource) := store.buckets.lookup key

/-- The store with another bucket at a place. -/
def put (store : Store) (key : BucketKey) (bucket : List Resource) : Store :=
  ⟨(key, bucket) :: store.buckets.filter (·.1 ≠ key)⟩

/-- The store without the bucket at a place. -/
def erase (store : Store) (key : BucketKey) : Store := ⟨store.buckets.filter (·.1 ≠ key)⟩

/-- The bucket with one more resource, unless it holds the same already. -/
def insertNew (bucket : List Resource) (r : Resource) : List Resource :=
  if bucket.any (r.same ·) then bucket else bucket ++ [r]

/-- The bucket without the resources that are the same as a listed one. -/
def removeAll (bucket removed : List Resource) : List Resource :=
  bucket.filter fun r => !removed.any (r.same ·)

/-- The store with more resources in a bucket. -/
def added (store : Store) (key : BucketKey) (resources : List Resource) : Store :=
  store.put key (resources.foldl insertNew ((store.bucket? key).getD []))

/-- The store with resources taken out of a bucket; where there is no bucket nothing happens. -/
def removed (store : Store) (key : BucketKey) (resources : List Resource) : Store :=
  match store.bucket? key with
  | none => store
  | some bucket =>
    let rest := removeAll bucket resources
    if rest.isEmpty then store.erase key else store.put key rest

/-- **Work on a store**, which may be refused; what was done before stays done. -/
abbrev Work := ExceptT WhitelistError (StateM Store)

/-- **Whitelisting resources** for a role under a scope; one resource that the scope does not apply
to refuses them all. -/
def grant (role scope : String) (resources : List Resource) : Work Unit := do
  let scope ← Scope.parse scope
  scope.verifyAll resources
  modify (·.added (role, scope) resources)

/-- **Taking resources out** of the whitelist of a role under a scope. -/
def revoke (role scope : String) (resources : List Resource) : Work Unit := do
  let scope ← Scope.parse scope
  modify (·.removed (role, scope) resources)

/-- **Applying a role option** with its value. -/
def applyOption (role option value : String) : Work Action := do
  let (action, scope) ← Action.parseOption option
  let resources ← parseResources value
  match action with
  | .grant => grant role scope.name resources
  | .revoke => revoke role scope.name resources
  return action

/-- The store without the whitelist of a role. -/
def dropRole (store : Store) (role : String) : Store := ⟨store.buckets.filter (·.1.1 ≠ role)⟩

/-- **The whitelist of a role.** -/
def lookup (store : Store) (role : String) : Whitelist :=
  store.buckets.filterMap fun (key, bucket) => if key.1 = role then some (key.2, bucket) else none

end Store

end AuditTrail
