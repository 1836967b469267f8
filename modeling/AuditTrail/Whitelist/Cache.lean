import AuditTrail.Fault
import AuditTrail.Number.Binary64
import AuditTrail.Whitelist.Store

/-!
# Whitelist/Cache — whitelists kept for a while

A `Cache` keeps the whitelists of roles in the order in which they were first loaded.  `Cache.get`
answers from the cache while an entry is not older than the validity, and otherwise with what the
lookup gives now; an error keeps nothing.
-/

namespace AuditTrail

open AuditTrail.Number

/-- How long an entry is used, in seconds, and how many entries are kept. -/
structure CacheLimits where
  validity : Binary64
  maxEntries : Int
  deriving Repr

/-- Two seconds and a thousand roles. -/
def CacheLimits.default : CacheLimits := ⟨.ofInt 2, 1000⟩

/-- Nothing is kept unless the validity is above zero. -/
def CacheLimits.keeps (limits : CacheLimits) : Bool := limits.validity.isAboveZero

/-- A whitelist and when it was loaded. -/
structure CacheEntry where
  whitelist : Whitelist
  loadedAt : Rat
  deriving Repr

/-- **Whitelists by role**, with the counts of the answers given from the cache and of the others. -/
structure Cache where
  entries : List (String × CacheEntry)
  hits : Nat
  misses : Nat
  deriving Repr

/-- The time between two readings of a clock. -/
def elapsed (since now : Rat) : Binary64 := .ofRat (now - since)

/-- The entry is older than the validity. -/
def CacheEntry.isExpired (entry : CacheEntry) (limits : CacheLimits) (now : Rat) : Bool :=
  limits.validity.isBelow (elapsed entry.loadedAt now)

/-- **The answer of a cache**: the outcome, whether the lookup was called for it, and the cache
afterwards. -/
structure CacheAnswer where
  outcome : Except Fault Whitelist
  called : Bool
  cache : Cache

namespace Cache

/-- The cache without entries. -/
def empty : Cache := ⟨[], 0, 0⟩

/-- The entry of a role. -/
def entry? (c : Cache) (role : String) : Option CacheEntry := c.entries.lookup role

/-- The entry of a role that is not expired. -/
def fresh? (c : Cache) (limits : CacheLimits) (now : Rat) (role : String) : Option CacheEntry :=
  (c.entry? role).filter fun entry => !entry.isExpired limits now

/-- A failed lookup of a role is told as such; one that tells so itself stays as it is. -/
def asLookupFault (role : String) : Fault → Fault
  | .policyLookup r reason => .policyLookup r reason
  | fault => .policyLookup role fault.message

/-- The entries with the one of a role replaced in its place, or added at the end. -/
def store (entries : List (String × CacheEntry)) (role : String) (entry : CacheEntry) :
    List (String × CacheEntry) :=
  if entries.any (·.1 == role) then
    entries.map fun e => if e.1 == role then (role, entry) else e
  else entries ++ [(role, entry)]

/-- **Keeping a whitelist.**  When the cache is full and the role is new, the first entry makes room;
`none` when there is no entry that could. -/
def keep? (limits : CacheLimits) (role : String) (entry : CacheEntry)
    (entries : List (String × CacheEntry)) : Option (List (String × CacheEntry)) :=
  if limits.maxEntries ≤ entries.length && !entries.any (·.1 == role) then
    match entries with
    | [] => none
    | _ :: rest => some (store rest role entry)
  else some (store entries role entry)

/-- **The whitelist of a role at a time**, where `loaded` is what the lookup gives if it is called. -/
def get (limits : CacheLimits) (now : Rat) (role : String) (loaded : Except Fault Whitelist)
    (c : Cache) : CacheAnswer :=
  if !limits.keeps then ⟨loaded.mapError (asLookupFault role), true, c⟩
  else
    match c.fresh? limits now role with
    | some entry => ⟨.ok entry.whitelist, false, { c with hits := c.hits + 1 }⟩
    | none =>
      let missed := { c with misses := c.misses + 1 }
      match loaded with
      | .error fault => ⟨.error (asLookupFault role fault), true, missed⟩
      | .ok whitelist =>
        match keep? limits role ⟨whitelist, now⟩ c.entries with
        | none => ⟨.error (.other .exhausted ""), true, missed⟩
        | some entries => ⟨.ok whitelist, true, { missed with entries := entries }⟩

/-- The cache without the entry of a role. -/
def invalidate (role : String) (c : Cache) : Cache :=
  { c with entries := c.entries.filter (·.1 != role) }

/-- The cache without entries; the counts stay. -/
def invalidateAll (c : Cache) : Cache := { c with entries := [] }

/-- The part of the answers that came from the cache. -/
def hitRate (c : Cache) : Binary64 :=
  if c.hits + c.misses = 0 then .ofInt 0 else .ofRatio false c.hits (c.hits + c.misses)

end Cache

end AuditTrail
