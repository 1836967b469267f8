import AuditTrail.Proofs.Access.Hierarchy
import AuditTrail.Proofs.Outcome
import AuditTrail.Whitelist.Exemption

/-!
# Proofs/Whitelist/Decision — what the whitelists of roles decide

    every permission ── some role ── the scope of everything, or of the permission
                                       └─ a listed resource at or above the resource

`Event.ExemptUnder` is the decision that some whitelists justify, whatever their order.  The decision
made role by role ends in one of three ways (`isExempt_cases`): exempt with the whitelists at hand as
the reason, not exempt after every whitelist was seen, or with the failure of a lookup.  So skipped
lookups hide a failure behind a justified exemption only.
-/

namespace AuditTrail

/-! ## What whitelists justify -/

/-- A scope of the whitelist lists a resource that the given one lies under, up to sameness. -/
def Whitelist.Grants (w : Whitelist) (scope : Scope) (r : Resource) : Prop :=
  ∃ listed ∈ w.bucket scope, ∃ ancestor, r.LiesUnder ancestor ∧ ancestor.same listed = true

/-- **The decision that whitelists justify**: each permission is granted by one of them, in the scope of
everything or in its own; without permissions, one grants everything. -/
def Event.ExemptUnder (e : Event) (ws : List Whitelist) : Prop :=
  (∀ p ∈ e.permissions, ∃ w ∈ ws, w.Grants .all e.resource ∨ w.Grants (.only p) e.resource) ∧
  (e.permissions = [] → ∃ w ∈ ws, w.Grants .all e.resource)

/-- Whitelists have no order, and neither have permissions. -/
theorem Event.ExemptUnder.of_perm {e e' : Event} {ws ws' : List Whitelist} (h : e.ExemptUnder ws)
    (hws : ws.Perm ws') (hpermissions : e.permissions.Perm e'.permissions)
    (hresource : e.resource = e'.resource) : e'.ExemptUnder ws' := by
  obtain ⟨hsome, hnone⟩ := h
  rw [hresource] at hsome hnone
  constructor
  · intro p hp
    obtain ⟨w, hw, hgrants⟩ := hsome p (hpermissions.mem_iff.mpr hp)
    exact ⟨w, hws.mem_iff.mp hw, hgrants⟩
  · intro hempty
    obtain ⟨w, hw, hgrants⟩ := hnone (List.perm_nil.mp (hempty ▸ hpermissions))
    exact ⟨w, hws.mem_iff.mp hw, hgrants⟩

theorem Whitelist.any_accepts_iff {w : Whitelist} {scope : Scope} {r : Resource} :
    ((w.bucket scope).any (accepts · r)) = true ↔ w.Grants scope r := by
  rw [List.any_eq_true]
  exact exists_congr fun _ => and_congr_right fun _ => accepts_iff

theorem Whitelist.covers_none_iff {w : Whitelist} {r : Resource} :
    w.covers none r = true ↔ w.Grants .all r := by
  rw [covers, scopesFor, List.any_cons, List.any_nil, Bool.or_false, any_accepts_iff]

theorem Whitelist.covers_some_iff {w : Whitelist} {p : Permission} {r : Resource} :
    w.covers (some p) r = true ↔ w.Grants .all r ∨ w.Grants (.only p) r := by
  rw [covers, scopesFor, List.any_cons, List.any_cons, List.any_nil, Bool.or_false, Bool.or_eq_true,
    any_accepts_iff, any_accepts_iff]

/-- The decision is that each asked permission is covered. -/
theorem Event.exemptUnder_iff {e : Event} {ws : List Whitelist} :
    e.ExemptUnder ws ↔ ∀ p ∈ e.asked, ∃ w ∈ ws, w.covers p e.resource = true := by
  rw [ExemptUnder, asked]
  rcases hpermissions : e.permissions with _ | ⟨p, ps⟩
  · simp [Whitelist.covers_none_iff]
  · simp [Whitelist.covers_some_iff]

/-! ## The decision role by role -/

section Decision

variable {ε : Type} {lookup : String → Except ε Whitelist} {roles : List String} {e : Event}

/-- The whitelists of the roles whose lookup does not fail. -/
def known (lookup : String → Except ε Whitelist) (roles : List String) : List Whitelist :=
  roles.filterMap fun role => (lookup role).toOption

theorem mem_known_iff {w : Whitelist} : w ∈ known lookup roles ↔ ∃ role ∈ roles, lookup role = .ok w := by
  rw [known, List.mem_filterMap]
  refine exists_congr fun role => and_congr_right fun _ => ?_
  cases lookup role with
  | error fault => exact ⟨nofun, nofun⟩
  | ok w' =>
    exact ⟨fun h => congrArg Except.ok (Option.some.inj h), fun h => congrArg some (Except.ok.inj h)⟩

/-- What a role answers when it is asked for a permission. -/
theorem covers_lookup_eq (role : String) (r : Resource) (p : Option Permission) :
    (do return (← lookup role).covers p r) = (lookup role).map (·.covers p r) := by
  cases lookup role <;> rfl

/-- **Asking the roles for one permission**: a known whitelist covers it, every lookup was made and no
whitelist covers it, or a lookup failed. -/
theorem isCovered_cases (lookup : String → Except ε Whitelist) (roles : List String) (r : Resource)
    (p : Option Permission) :
    isCovered lookup roles r p = .ok true ∧ (∃ w ∈ known lookup roles, w.covers p r = true) ∨
    isCovered lookup roles r p = .ok false ∧ (∀ role ∈ roles, ∃ w, lookup role = .ok w) ∧
      (¬ ∃ w ∈ known lookup roles, w.covers p r = true) ∨
    ∃ fault, isCovered lookup roles r p = .error fault ∧ ∃ role ∈ roles, lookup role = .error fault := by
  rw [isCovered]
  simp only [covers_lookup_eq]
  rcases anyM_cases (fun role => (lookup role).map (·.covers p r)) roles with
    ⟨h, role, hrole, hyes⟩ | ⟨h, hno⟩ | ⟨fault, h, role, hrole, hfail⟩
  · obtain ⟨w, hw, hcovers⟩ := map_eq_ok_iff.mp hyes
    exact .inl ⟨h, w, mem_known_iff.mpr ⟨role, hrole, hw⟩, hcovers⟩
  · have hseen : ∀ role ∈ roles, ∃ w, lookup role = .ok w ∧ w.covers p r = false :=
      fun role hrole => map_eq_ok_iff.mp (hno role hrole)
    refine .inr (.inl ⟨h, fun role hrole => (hseen role hrole).imp fun _ => And.left, ?_⟩)
    rintro ⟨w, hw, hcovers⟩
    obtain ⟨role, hrole, hlookup⟩ := mem_known_iff.mp hw
    obtain ⟨w', hlookup', hnot⟩ := hseen role hrole
    obtain rfl := Except.ok.inj (hlookup.symm.trans hlookup')
    rw [hcovers] at hnot
    cases hnot
  · exact .inr (.inr ⟨fault, h, role, hrole, map_eq_error_iff.mp hfail⟩)

/-- **The three ends of a decision.** -/
theorem isExempt_cases (lookup : String → Except ε Whitelist) (e : Event) (hroles : roles ≠ []) :
    isExempt lookup roles e = .ok true ∧ e.ExemptUnder (known lookup roles) ∨
    isExempt lookup roles e = .ok false ∧ (∀ role ∈ roles, ∃ w, lookup role = .ok w) ∧
      ¬ e.ExemptUnder (known lookup roles) ∨
    ∃ fault, isExempt lookup roles e = .error fault ∧ ∃ role ∈ roles, lookup role = .error fault := by
  rw [isExempt, if_neg (by rwa [List.isEmpty_iff]), Event.exemptUnder_iff]
  rcases allM_cases (isCovered lookup roles e.resource) e.asked with
    ⟨h, hyes⟩ | ⟨h, p, hp, hno⟩ | ⟨fault, h, p, hp, hfail⟩
  · refine .inl ⟨h, fun p hp => ?_⟩
    rcases isCovered_cases lookup roles e.resource p with ⟨-, hcovers⟩ | ⟨hfalse, -⟩ | ⟨_, herror, -⟩
    · exact hcovers
    · cases (hyes p hp).symm.trans hfalse
    · cases (hyes p hp).symm.trans herror
  · rcases isCovered_cases lookup roles e.resource p with
      ⟨htrue, -⟩ | ⟨-, hseen, hnone⟩ | ⟨_, herror, -⟩
    · cases hno.symm.trans htrue
    · exact .inr (.inl ⟨h, hseen, fun hall => hnone (hall p hp)⟩)
    · cases hno.symm.trans herror
  · rcases isCovered_cases lookup roles e.resource p with
      ⟨htrue, -⟩ | ⟨hfalse, -⟩ | ⟨fault', herror, hrole⟩
    · cases hfail.symm.trans htrue
    · cases hfail.symm.trans hfalse
    · obtain rfl := Except.error.inj (hfail.symm.trans herror)
      exact .inr (.inr ⟨fault, h, hrole⟩)

/-- Two orders of the roles and of the permissions do not decide against each other. -/
theorem not_isExempt_of_perm (e e' : Event) (hroles : roles ≠ []) {roles' : List String}
    (hperm : roles.Perm roles') (hpermissions : e.permissions.Perm e'.permissions)
    (hresource : e.resource = e'.resource) (htrue : isExempt lookup roles e = .ok true) :
    isExempt lookup roles' e' ≠ .ok false := by
  intro hfalse
  have hroles' : roles' ≠ [] := fun h => hroles (List.perm_nil.mp (h ▸ hperm))
  have hjustified : e.ExemptUnder (known lookup roles) := by
    rcases isExempt_cases lookup e hroles with
      ⟨-, h⟩ | ⟨hfalse, -⟩ | ⟨_, herror, -⟩
    · exact h
    · cases htrue.symm.trans hfalse
    · cases htrue.symm.trans herror
  rcases isExempt_cases lookup e' hroles' with
    ⟨htrue', -⟩ | ⟨-, -, hnot⟩ | ⟨_, herror, -⟩
  · cases hfalse.symm.trans htrue'
  · exact hnot (hjustified.of_perm (hperm.filterMap _) hpermissions hresource)
  · cases hfalse.symm.trans herror

/-- **A failed lookup is never turned into a decision.**  An event is not exempt only when every lookup
gave a whitelist and these do not justify it; it is exempt only when the known whitelists justify it;
any other end is the failure of a lookup.  So without failures the decision is the justified one, and
two orders of the roles and of the permissions never decide against each other. -/
theorem isExempt_justified (hroles : roles ≠ []) :
    (isExempt lookup roles e = .ok false →
      (∀ role ∈ roles, ∃ w, lookup role = .ok w) ∧ ¬ e.ExemptUnder (known lookup roles)) ∧
    (isExempt lookup roles e = .ok true → e.ExemptUnder (known lookup roles)) ∧
    (∀ fault, isExempt lookup roles e = .error fault → ∃ role ∈ roles, lookup role = .error fault) ∧
    ((∀ role ∈ roles, ∃ w, lookup role = .ok w) →
      isExempt lookup roles e = .ok true ∧ e.ExemptUnder (known lookup roles) ∨
      isExempt lookup roles e = .ok false ∧ ¬ e.ExemptUnder (known lookup roles)) ∧
    (∀ roles' permissions', roles.Perm roles' → e.permissions.Perm permissions' →
      ¬ (isExempt lookup roles e = .ok true ∧
        isExempt lookup roles' { e with permissions := permissions' } = .ok false) ∧
      ¬ (isExempt lookup roles e = .ok false ∧
        isExempt lookup roles' { e with permissions := permissions' } = .ok true)) := by
  have hcases := isExempt_cases lookup e hroles
  refine ⟨fun hfalse => ?_, fun htrue => ?_, fun fault herror => ?_, fun hseen => ?_,
    fun roles' permissions' hperm hpermissions => ⟨?_, ?_⟩⟩
  · rcases hcases with ⟨h, -⟩ | ⟨-, hjustified⟩ | ⟨_, h, -⟩
    · cases hfalse.symm.trans h
    · exact hjustified
    · cases hfalse.symm.trans h
  · rcases hcases with ⟨-, hjustified⟩ | ⟨h, -⟩ | ⟨_, h, -⟩
    · exact hjustified
    · cases htrue.symm.trans h
    · cases htrue.symm.trans h
  · rcases hcases with ⟨h, -⟩ | ⟨h, -⟩ | ⟨_, h, hrole⟩
    · cases herror.symm.trans h
    · cases herror.symm.trans h
    · obtain rfl := Except.error.inj (herror.symm.trans h)
      exact hrole
  · rcases hcases with hyes | ⟨h, -, hnot⟩ | ⟨fault, -, role, hrole, hfail⟩
    · exact .inl hyes
    · exact .inr ⟨h, hnot⟩
    · obtain ⟨w, hw⟩ := hseen role hrole
      cases hw.symm.trans hfail
  · rintro ⟨htrue, hfalse⟩
    exact absurd hfalse (not_isExempt_of_perm e _ hroles hperm hpermissions rfl htrue)
  · rintro ⟨hfalse, htrue⟩
    have hroles' : roles' ≠ [] := fun h => hroles (List.perm_nil.mp (h ▸ hperm))
    exact absurd hfalse (not_isExempt_of_perm { e with permissions := permissions' } e hroles'
      hperm.symm hpermissions.symm rfl htrue)

end Decision

/-- A lookup in which `bob` may read a keyspace, `eve` nothing, and other roles cannot be looked up. -/
def partialLookup : String → Except String Whitelist
  | "bob" => .ok [(.only .select, [.keyspace "ks"])]
  | "eve" => .ok []
  | _ => .error "unavailable"

/-- Reading a table. -/
def readingTable (permissions : List Permission) : Event :=
  { principal := "bob", clientAddress := none, clientPort := none, coordinatorAddress := none,
    batchId := none, status := .attempt, operation := none, operationKnown := true,
    nakedOperation := none, permissions := permissions, resource := .table "ks" "t", timestamp := 0 }

/-- A failure is hidden behind a justified exemption, shows when it is met first, and is never a
refusal. -/
theorem isExempt_partialLookup :
    (["bob", "ghost"] : List String) ≠ [] ∧
    (readingTable [.select]).ExemptUnder (known partialLookup ["bob", "ghost"]) ∧
    isExempt partialLookup ["ghost", "bob"] (readingTable [.select]) = .error "unavailable" ∧
    ¬ (readingTable [.select, .modify]).ExemptUnder (known partialLookup ["eve", "bob"]) := by
  have htrue : isExempt partialLookup ["bob", "ghost"] (readingTable [.select]) = .ok true := rfl
  have hfalse : isExempt partialLookup ["eve", "bob"] (readingTable [.select, .modify]) = .ok false :=
    rfl
  refine ⟨by decide, (isExempt_justified (by decide)).2.1 htrue, rfl,
    ((isExempt_justified (by decide)).1 hfalse).2⟩

end AuditTrail
