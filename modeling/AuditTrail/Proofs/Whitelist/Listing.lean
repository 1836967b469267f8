import Mathlib.Data.List.Basic
import AuditTrail.Proofs.Access.Hierarchy
import AuditTrail.Proofs.Lookup
import AuditTrail.Whitelist.Store

/-!
# Proofs/Whitelist/Listing — what the buckets of a store list

    a bucket  ──added──▸ the old ones and the new ones (`holds_foldl_insertNew`)
              ──removed──▸ the old ones but those (`holds_removeAll`)

A bucket lists a resource when it holds the same one.  The whitelist of a role has the buckets of the
role (`lookup_lookup`), and each change of a store is a change of one bucket, or of all those of a role.
-/

namespace AuditTrail

namespace Store

/-! ## Buckets -/

/-- A bucket lists a resource, up to sameness. -/
def Holds (bucket : List Resource) (r : Resource) : Prop := ∃ listed ∈ bucket, r.same listed = true

theorem any_same_iff {bucket : List Resource} {r : Resource} :
    bucket.any (r.same ·) = true ↔ Holds bucket r := List.any_eq_true

theorem holds_nil (r : Resource) : ¬ Holds [] r := fun ⟨_, h, _⟩ => List.not_mem_nil h

/-- Sameness does not matter to what is listed. -/
theorem Holds.congr {bucket : List Resource} {r r' : Resource} (h : r.same r' = true) :
    Holds bucket r ↔ Holds bucket r' := by
  unfold Holds
  simp only [Resource.same_congr h]

theorem holds_insertNew {bucket : List Resource} {added r : Resource} :
    Holds (insertNew bucket added) r ↔ Holds bucket r ∨ r.same added = true := by
  rw [insertNew]
  split
  case isTrue hthere =>
    refine ⟨.inl, ?_⟩
    rintro (h | hsame)
    · exact h
    · exact (Holds.congr hsame).mpr (any_same_iff.mp hthere)
  case isFalse =>
    simp only [Holds, List.mem_append, List.mem_singleton]
    constructor
    · rintro ⟨listed, hold | rfl, hsame⟩
      · exact .inl ⟨listed, hold, hsame⟩
      · exact .inr hsame
    · rintro (⟨listed, hold, hsame⟩ | hsame)
      · exact ⟨listed, .inl hold, hsame⟩
      · exact ⟨added, .inr rfl, hsame⟩

/-- **Resources that are added are listed beside the old ones.** -/
theorem holds_foldl_insertNew {bucket added : List Resource} {r : Resource} :
    Holds (added.foldl insertNew bucket) r ↔ Holds bucket r ∨ Holds added r := by
  induction added generalizing bucket with
  | nil => exact ⟨.inl, fun h => h.resolve_right (holds_nil r)⟩
  | cons first rest ih =>
    rw [List.foldl_cons, ih, holds_insertNew, or_assoc]
    refine or_congr_right ?_
    simp only [Holds, List.exists_mem_cons_iff]

/-- **Resources that are taken out are not listed any more**, and all others are as before. -/
theorem holds_removeAll {bucket removed : List Resource} {r : Resource} :
    Holds (removeAll bucket removed) r ↔ Holds bucket r ∧ ¬ Holds removed r := by
  simp only [removeAll, Holds, List.mem_filter, Bool.not_eq_true', ← Bool.not_eq_true, any_same_iff]
  constructor
  · rintro ⟨listed, ⟨hold, hnot⟩, hsame⟩
    exact ⟨⟨listed, hold, hsame⟩, fun h => hnot ((Holds.congr hsame).mp h)⟩
  · rintro ⟨⟨listed, hold, hsame⟩, hnot⟩
    exact ⟨listed, ⟨hold, fun h => hnot ((Holds.congr hsame).mpr h)⟩, hsame⟩

/-! ## What a store lists -/

/-- The bucket at a place, empty if there is none. -/
def bucketAt (store : Store) (key : BucketKey) : List Resource := (store.bucket? key).getD []

/-- **The store lists a resource** for a role under a scope. -/
def Lists (store : Store) (role : String) (scope : Scope) (r : Resource) : Prop :=
  Holds ((store.lookup role).bucket scope) r

/-- **The whitelist of a role has the buckets of the role.** -/
theorem lookup_lookup (store : Store) (role : String) (scope : Scope) :
    (store.lookup role).lookup scope = store.bucket? (role, scope) := by
  obtain ⟨entries⟩ := store
  rw [bucket?, lookup]
  induction entries with
  | nil => rfl
  | cons entry rest ih =>
    obtain ⟨⟨role', scope'⟩, bucket⟩ := entry
    rw [List.filterMap_cons]
    dsimp only
    by_cases hrole : role' = role
    · subst hrole
      rw [if_pos rfl, List.lookup_cons, List.lookup_cons]
      by_cases hscope : scope = scope'
      · subst hscope
        rw [beq_self_eq_true, beq_self_eq_true]
      · rw [beq_eq_false_iff_ne.mpr hscope, beq_eq_false_iff_ne.mpr fun h => hscope (Prod.ext_iff.mp h).2]
        exact ih
    · rw [if_neg hrole, List.lookup_cons, beq_eq_false_iff_ne.mpr fun h => hrole (Prod.ext_iff.mp h).1.symm]
      exact ih

theorem bucket_lookup (store : Store) (role : String) (scope : Scope) :
    (store.lookup role).bucket scope = store.bucketAt (role, scope) := by
  rw [Whitelist.bucket, lookup_lookup, bucketAt]

/-! ## Changes of a store, bucket by bucket -/

theorem bucket?_put (store : Store) (key other : BucketKey) (bucket : List Resource) :
    (store.put key bucket).bucket? other = if other = key then some bucket else store.bucket? other :=
  lookup_cons_filter store.buckets key other bucket

theorem bucket?_erase (store : Store) (key other : BucketKey) :
    (store.erase key).bucket? other = if other = key then none else store.bucket? other := by
  refine (lookup_filter (fun k => decide (k ≠ key)) store.buckets other).trans ?_
  by_cases h : other = key
  · rw [if_pos h, if_neg (by simp [h])]
  · rw [if_neg h, if_pos (decide_eq_true h), bucket?]

theorem bucket?_dropRole (store : Store) (role : String) (key : BucketKey) :
    (store.dropRole role).bucket? key = if key.1 = role then none else store.bucket? key := by
  refine (lookup_filter (fun k : BucketKey => decide (k.1 ≠ role)) store.buckets key).trans ?_
  by_cases h : key.1 = role
  · rw [if_pos h, if_neg (by simp [h])]
  · rw [if_neg h, if_pos (decide_eq_true h), bucket?]

theorem bucket?_added (store : Store) (key other : BucketKey) (resources : List Resource) :
    (store.added key resources).bucket? other
      = if other = key then some (resources.foldl insertNew (store.bucketAt key))
        else store.bucket? other :=
  bucket?_put store key other _

/-- **A bucket that becomes empty is dropped**, and where there is no bucket nothing happens. -/
theorem bucket?_removed (store : Store) (key other : BucketKey) (resources : List Resource) :
    (store.removed key resources).bucket? other
      = if other = key then ((store.bucket? key).map (removeAll · resources)).filter (!·.isEmpty)
        else store.bucket? other := by
  rw [removed]
  cases hbucket : store.bucket? key with
  | none =>
    dsimp only
    split
    case isTrue h => rw [h, hbucket]; rfl
    case isFalse => rfl
  | some bucket =>
    dsimp only
    rw [Option.map_some]
    by_cases hempty : (removeAll bucket resources).isEmpty = true
    · rw [if_pos hempty, bucket?_erase, Option.filter_some_neg (by simpa using hempty)]
    · rw [if_neg hempty, bucket?_put, Option.filter_some_pos (by simpa using hempty)]

theorem bucketAt_dropRole (store : Store) (role : String) (key : BucketKey) :
    (store.dropRole role).bucketAt key = if key.1 = role then [] else store.bucketAt key := by
  rw [bucketAt, bucket?_dropRole]
  split <;> rfl

theorem bucketAt_added (store : Store) (key other : BucketKey) (resources : List Resource) :
    (store.added key resources).bucketAt other
      = if other = key then resources.foldl insertNew (store.bucketAt key) else store.bucketAt other := by
  rw [bucketAt, bucket?_added]
  split <;> rfl

/-- Where there is no bucket nothing is taken out, which is as if the bucket were empty. -/
theorem bucketAt_removed (store : Store) (key other : BucketKey) (resources : List Resource) :
    (store.removed key resources).bucketAt other
      = if other = key then removeAll (store.bucketAt key) resources else store.bucketAt other := by
  rw [bucketAt, bucket?_removed]
  split
  case isTrue =>
    rw [bucketAt]
    cases store.bucket? key with
    | none => rfl
    | some bucket =>
      rw [Option.map_some, Option.getD_some]
      by_cases hempty : (removeAll bucket resources).isEmpty = true
      · rw [Option.filter_some_neg (by simpa using hempty), List.isEmpty_iff.mp hempty]
        rfl
      · rw [Option.filter_some_pos (by simpa using hempty), Option.getD_some]
  case isFalse => rfl

end Store

end AuditTrail
