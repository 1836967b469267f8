import AuditTrail.Proofs.Whitelist.History

/-!
# Proofs/Whitelist/EmptyBuckets — which buckets are there

    grant of some ──▸ a bucket that lists them
    grant of none ──▸ a bucket, empty where nothing was listed
    revoke        ──▸ the rest, and no bucket where nothing is left

A bucket is there when it lists something or when the last order for it was a grant
(`isSome_bucket?_iff`).  So the whitelist of a role has an empty bucket exactly where that order was a grant
and nothing is listed, and two stores that list the same have the same whitelists exactly when they agree
about those orders (`lookup_eq_some_nil_iff`).
-/

namespace AuditTrail.Store

variable {store : Store} {role : String} {scope : Scope} {o : Order} {c : Change}
  {history : List Change}

/-! ## Whitelists -/

/-- Only the empty bucket lists nothing. -/
theorem exists_holds_iff {bucket : List Resource} : (∃ r, Holds bucket r) ↔ bucket ≠ [] := by
  constructor
  · rintro ⟨r, h⟩ rfl
    exact holds_nil r h
  · intro h
    obtain ⟨r, hr⟩ := List.exists_mem_of_ne_nil bucket h
    exact ⟨r, r, hr, r.same_refl⟩

/-- **Two whitelists are the same**: they have buckets under the same scopes, with the same resources. -/
def SameWhitelist (w w' : Whitelist) : Prop :=
  ∀ scope, Option.Rel (fun bucket bucket' => ∀ r, Holds bucket r ↔ Holds bucket' r)
    (w.lookup scope) (w'.lookup scope)

/-- **A bucket is empty** when it is there and nothing is listed. -/
theorem lookup_eq_nil_iff : (store.lookup role).lookup scope = some [] ↔
    (store.bucket? (role, scope)).isSome ∧ ∀ r, ¬ store.Lists role scope r := by
  have hnone : (∀ r, ¬ store.Lists role scope r) ↔ store.bucketAt (role, scope) = [] := by
    simp only [lists_iff, ← not_exists, exists_holds_iff, ne_eq, not_not]
  rw [lookup_lookup, hnone, bucketAt]
  cases store.bucket? (role, scope) with
  | none => simp
  | some bucket => simp

/-- **Stores that list the same** have the same whitelist of a role when they have its buckets under the same
scopes. -/
theorem sameWhitelist_iff {store' : Store}
    (h : ∀ scope r, store.Lists role scope r ↔ store'.Lists role scope r) :
    SameWhitelist (store.lookup role) (store'.lookup role) ↔
      ∀ scope, (store.bucket? (role, scope)).isSome ↔ (store'.bucket? (role, scope)).isSome := by
  refine forall_congr' fun scope => ?_
  have hlists := h scope
  simp only [lists_iff, bucketAt] at hlists
  rw [lookup_lookup, lookup_lookup]
  cases hbucket : store.bucket? (role, scope) <;> cases hbucket' : store'.bucket? (role, scope)
  case none.none => exact iff_of_true .none Iff.rfl
  case none.some =>
    refine iff_of_false (fun h => ?_) fun h => ?_
    · cases h
    · cases h.mpr rfl
  case some.none =>
    refine iff_of_false (fun h => ?_) fun h => ?_
    · cases h
    · cases h.mp rfl
  case some.some =>
    rw [hbucket, hbucket'] at hlists
    exact iff_of_true (.some hlists) (iff_of_true rfl rfl)

/-! ## Orders for a bucket -/

/-- **What an order does at a bucket**, whatever resources it names. -/
def Order.deed (role : String) (scope : Scope) : Order → Option Action
  | act action role' scope' _ => if role' = role ∧ scope' = scope then some action else none
  | drop role' => if role' = role then some .revoke else none

/-- **The orders of some changes**, those that are not refused. -/
def orders (changes : List Change) : List Order := changes.filterMap (·.order.toOption)

/-- **The last deed** of some changes at a bucket. -/
def lastDeed (role : String) (scope : Scope) (changes : List Change) : Option Action :=
  ((orders changes).filterMap (Order.deed role scope)).getLast?

theorem isSome_of_lists {r : Resource} (h : store.Lists role scope r) :
    (store.bucket? (role, scope)).isSome := by
  rw [lists_iff, bucketAt] at h
  cases hbucket : store.bucket? (role, scope) with
  | none =>
    rw [hbucket] at h
    exact absurd h (holds_nil r)
  | some bucket => rfl

/-- A bucket that is not empty is there when it lists something. -/
theorem isSome_bucket?_of_ne (h : store.bucket? (role, scope) ≠ some []) :
    (store.bucket? (role, scope)).isSome ↔ ∃ r, store.Lists role scope r := by
  refine ⟨fun hthere => ?_, fun ⟨_, hlists⟩ => isSome_of_lists hlists⟩
  by_contra hnone
  rw [← lookup_lookup] at h
  exact h (lookup_eq_nil_iff.mpr ⟨hthere, not_exists.mp hnone⟩)

/-- Taking resources out leaves no empty bucket. -/
theorem bucket?_removed_ne (key : BucketKey) (resources : List Resource) :
    (store.removed key resources).bucket? key ≠ some [] := by
  rw [bucket?_removed, if_pos rfl]
  intro h
  simpa using (Option.filter_eq_some_iff.mp h).2

/-- **An order that does nothing at a bucket** leaves it as it is. -/
theorem bucket?_carriedOut_of_deed_eq_none (h : o.deed role scope = none) :
    (o.carriedOut store).bucket? (role, scope) = store.bucket? (role, scope) := by
  cases o with
  | act action role' scope' resources =>
    rw [Order.deed, ite_eq_right_iff, imp_iff_not (Option.some_ne_none _)] at h
    have hother : (role, scope) ≠ (role', scope') := fun hsame =>
      h ⟨(Prod.mk.inj hsame).1.symm, (Prod.mk.inj hsame).2.symm⟩
    cases action with
    | grant => rw [Order.carriedOut, bucket?_added, if_neg hother]
    | revoke => rw [Order.carriedOut, bucket?_removed, if_neg hother]
  | drop role' =>
    rw [Order.deed, ite_eq_right_iff, imp_iff_not (Option.some_ne_none _)] at h
    rw [Order.carriedOut, bucket?_dropRole, if_neg (Ne.symm h)]

/-- **A bucket after an order for it** is there when the order is a grant or something is listed. -/
theorem isSome_bucket?_carriedOut {action : Action} (h : o.deed role scope = some action) :
    ((o.carriedOut store).bucket? (role, scope)).isSome ↔
      action = .grant ∨ ∃ r, (o.carriedOut store).Lists role scope r := by
  have hrevoke : Action.revoke ≠ .grant := by decide
  cases o with
  | act action' role' scope' resources =>
    obtain ⟨⟨rfl, rfl⟩, hsame⟩ := Option.ite_none_right_eq_some.mp h
    obtain rfl := Option.some.inj hsame
    cases action' with
    | grant =>
      rw [Order.carriedOut, bucket?_added, if_pos rfl]
      exact iff_of_true rfl (.inl rfl)
    | revoke =>
      rw [or_iff_right hrevoke]
      exact isSome_bucket?_of_ne (bucket?_removed_ne (role', scope') resources)
  | drop role' =>
    obtain ⟨rfl, hsame⟩ := Option.ite_none_right_eq_some.mp h
    obtain rfl := Option.some.inj hsame
    have hdropped := bucket?_dropRole store role' (role', scope)
    rw [if_pos rfl] at hdropped
    rw [or_iff_right hrevoke]
    exact isSome_bucket?_of_ne (hdropped ▸ (Option.some_ne_none []).symm)

theorem lastDeed_concat (history : List Change) (c : Change) : lastDeed role scope (history ++ [c])
    = (c.order.toOption.bind (Order.deed role scope)).or (lastDeed role scope history) := by
  rw [lastDeed, orders, List.filterMap_append, List.filterMap_append, List.getLast?_append]
  cases horder : c.order with
  | error error => simp [Except.toOption, horder, lastDeed, orders]
  | ok o =>
    cases hdeed : o.deed role scope <;> simp [Except.toOption, horder, hdeed, lastDeed, orders]

/-- **After any history a bucket is there** when the last order for it was a grant, or something is listed. -/
theorem isSome_bucket?_iff (history : List Change) (role : String) (scope : Scope) :
    ((after history .empty).bucket? (role, scope)).isSome ↔
      lastDeed role scope history = some .grant ∨ ∃ r, (after history .empty).Lists role scope r := by
  induction history using List.reverseRecOn with
  | nil => exact iff_of_false nofun (not_or.mpr ⟨nofun, fun ⟨r, h⟩ => holds_nil r h⟩)
  | append_singleton history c ih =>
    rw [after_concat, run_eq, lastDeed_concat]
    cases c.order with
    | error error => exact ih
    | ok o =>
      change ((o.carriedOut (after history .empty)).bucket? _).isSome ↔
        ((o.deed role scope).or _) = _ ∨ ∃ r, (o.carriedOut (after history .empty)).Lists role scope r
      -- An order for the bucket settles it, whatever was there before; any other leaves both sides alone.
      cases hdeed : o.deed role scope with
      | none =>
        simp only [lists_iff, bucketAt] at ih ⊢
        rw [bucket?_carriedOut_of_deed_eq_none hdeed, Option.none_or]
        exact ih
      | some action => rw [isSome_bucket?_carriedOut hdeed, Option.some_or, Option.some_inj]

/-! ## What is left of a history -/

/-- **Where a bucket is empty, after any history**: the last order for it was a grant, and nothing is listed.
Two histories that leave the same listed lead to the same whitelist of a role exactly when, for each of its
buckets in which nothing is listed, the last order was a grant in both or in none. -/
theorem lookup_eq_some_nil_iff (history : List Change) (role : String) :
    (∀ scope, ((after history .empty).lookup role).lookup scope = some [] ↔
      lastDeed role scope history = some .grant ∧ ∀ r, ¬ (after history .empty).Lists role scope r) ∧
    ∀ history',
      (∀ role scope r, (after history .empty).Lists role scope r ↔
        (after history' .empty).Lists role scope r) →
      (SameWhitelist ((after history .empty).lookup role) ((after history' .empty).lookup role) ↔
        ∀ scope, (∀ r, ¬ (after history .empty).Lists role scope r) →
          (lastDeed role scope history = some .grant ↔ lastDeed role scope history' = some .grant)) := by
  constructor
  · intro scope
    rw [lookup_eq_nil_iff, isSome_bucket?_iff]
    exact and_congr_left fun hnone => or_iff_left fun ⟨r, h⟩ => hnone r h
  · intro history' hsame
    rw [sameWhitelist_iff (hsame role)]
    refine forall_congr' fun scope => ?_
    simp only [isSome_bucket?_iff, hsame role scope]
    by_cases hlisted : ∃ r, (after history' .empty).Lists role scope r
    · exact iff_of_true (iff_of_true (.inr hlisted) (.inr hlisted)) fun hnone =>
        absurd hlisted (not_exists.mpr hnone)
    · rw [or_iff_left hlisted, or_iff_left hlisted]
      exact ⟨fun h _ => h, fun h => h (not_exists.mp hlisted)⟩

/-- A keyspace is whitelisted, and taken out again. -/
def grantedAndRevoked : List Change :=
  [.setOption "bob" "grant_audit_whitelist_for_select" "data/ks",
    .setOption "bob" "revoke_audit_whitelist_for_select" "data/ks"]

/-- What is granted and revoked again leaves no bucket. -/
theorem sameWhitelist_grantedAndRevoked :
    (∀ role scope r, (after grantedAndRevoked .empty).Lists role scope r ↔
      (after [] .empty).Lists role scope r) ∧
    SameWhitelist ((after grantedAndRevoked .empty).lookup "bob") ((after [] .empty).lookup "bob") := by
  have hlists : ∀ role scope r, (after grantedAndRevoked .empty).Lists role scope r ↔
      (after [] .empty).Lists role scope r := fun role scope r => Iff.rfl
  refine ⟨hlists, ((lookup_eq_some_nil_iff grantedAndRevoked "bob").2 [] hlists).mpr fun scope _ => ?_⟩
  obtain ⟨resources, horders⟩ : ∃ resources, orders grantedAndRevoked =
      [.act .grant "bob" (.only .select) resources, .act .revoke "bob" (.only .select) resources] :=
    ⟨_, rfl⟩
  have hdeed : lastDeed "bob" scope grantedAndRevoked ≠ some .grant := by
    rw [lastDeed, horders]
    by_cases hscope : .only .select = scope <;> simp [Order.deed, hscope]
  exact iff_of_false hdeed nofun

/-- An option is set to grant nothing. -/
def blankGrant : List Change := [.setOption "bob" "grant_audit_whitelist_for_all" ""]

/-- A grant of nothing lists nothing, and yet it leaves a bucket. -/
theorem blankGrant_leaves_bucket :
    ¬ (∀ history role scope, ((after history .empty).lookup role).lookup scope ≠ some []) ∧
    ¬ ∀ history history' : List Change,
      (∀ role scope r, (after history .empty).Lists role scope r ↔
        (after history' .empty).Lists role scope r) →
      ∀ role, SameWhitelist ((after history .empty).lookup role) ((after history' .empty).lookup role) := by
  have hbucket : ((after blankGrant .empty).lookup "bob").lookup .all = some [] := by decide +kernel
  refine ⟨fun h => h blankGrant "bob" .all hbucket, fun h => ?_⟩
  have hnone (role scope r) : ¬ (after blankGrant .empty).Lists role scope r := by
    have hstore : after blankGrant .empty = empty.added ("bob", .all) [] := rfl
    rw [lists_iff, hstore, bucketAt_added]
    split <;> exact holds_nil r
  have hsame := h blankGrant []
    (fun role scope r => iff_of_false (hnone role scope r) (holds_nil r)) "bob" .all
  rw [hbucket] at hsame
  cases hsame

end AuditTrail.Store
