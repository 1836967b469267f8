import AuditTrail.Proofs.Whitelist.Decision
import AuditTrail.Proofs.Whitelist.Listing

/-!
# Proofs/Whitelist/Monotone — what keeps an event exempt

    roles ──more──▸ roles'            resource ──further down──▸ resource'
    whitelist ──larger──▸ whitelist'  permissions ──some of them──▸ permissions'

An exemption survives each of the four changes, and all of them at once (`isExempt_mono`).  An event without
permissions asks for everything: what is exempt then is exempt with any permissions.
-/

namespace AuditTrail

variable {e e' : Event} {ws ws' : List Whitelist}

/-! ## Larger whitelists -/

namespace Whitelist

variable {w w' : Whitelist} {scope : Scope} {r r' : Resource}

/-- **A whitelist is within another one** that lists, under each scope, whatever it lists. -/
def Within (w w' : Whitelist) : Prop :=
  ∀ scope r, Store.Holds (w.bucket scope) r → Store.Holds (w'.bucket scope) r

theorem Within.of_subset (h : ∀ scope, w.bucket scope ⊆ w'.bucket scope) : w.Within w' :=
  fun scope _ ⟨listed, hlisted, hsame⟩ => ⟨listed, h scope hlisted, hsame⟩

/-- **What a whitelist grants on a resource**, a larger one grants on whatever lies under it. -/
theorem Grants.mono (h : w.Grants scope r) (hwithin : w.Within w') (hunder : r'.LiesUnder r) :
    w'.Grants scope r' := by
  obtain ⟨listed, hlisted, ancestor, habove, hsame⟩ := h
  obtain ⟨listed', hlisted', hsame'⟩ := hwithin scope ancestor ⟨listed, hlisted, hsame⟩
  exact ⟨listed', hlisted', ancestor, hunder.trans habove, hsame'⟩

end Whitelist

/-! ## Events that ask no more -/

/-- **An event asks no more than another one** when it is about a resource at or below that one's, and for
some of that one's permissions, or for any if that one asks for no permission in particular. -/
structure Event.AsksNoMore (e' e : Event) : Prop where
  resource : e'.resource.LiesUnder e.resource
  permissions : e.permissions = [] ∨ e'.permissions ≠ [] ∧ e'.permissions ⊆ e.permissions

/-- **What whitelists justify for an event**, larger ones justify for an event that asks no more. -/
theorem Event.ExemptUnder.mono (h : e.ExemptUnder ws) (hws : ∀ w ∈ ws, ∃ w' ∈ ws', w.Within w')
    (hasks : e'.AsksNoMore e) : e'.ExemptUnder ws' := by
  obtain ⟨hsome, hnone⟩ := h
  have hgrants {w : Whitelist} (hw : w ∈ ws) : ∃ w' ∈ ws', ∀ scope,
      w.Grants scope e.resource → w'.Grants scope e'.resource :=
    (hws w hw).imp fun w' => And.imp_right fun hwithin _ hgrant => hgrant.mono hwithin hasks.resource
  rcases hasks.permissions with hempty | ⟨hne, hsub⟩
  · obtain ⟨w, hw, hall⟩ := hnone hempty
    obtain ⟨w', hw', hmono⟩ := hgrants hw
    exact ⟨fun _ _ => ⟨w', hw', .inl (hmono _ hall)⟩, fun _ => ⟨w', hw', hmono _ hall⟩⟩
  · refine ⟨fun p hp => ?_, fun hempty => absurd hempty hne⟩
    obtain ⟨w, hw, hgrant⟩ := hsome p (hsub hp)
    obtain ⟨w', hw', hmono⟩ := hgrants hw
    exact ⟨w', hw', hgrant.imp (hmono _) (hmono _)⟩

/-! ## The decision -/

section Decision

variable {ε : Type} {lookup lookup' : String → Except ε Whitelist} {roles roles' : List String}

/-- What is exempt has roles, and the known whitelists justify it. -/
theorem exemptUnder_of_isExempt (h : isExempt lookup roles e = .ok true) :
    roles ≠ [] ∧ e.ExemptUnder (known lookup roles) := by
  have hroles : roles ≠ [] := by
    rintro rfl
    exact Bool.false_ne_true (Except.ok.inj h)
  rcases isExempt_cases lookup e hroles with ⟨-, hjustified⟩ | ⟨hfalse, -⟩ | ⟨_, herror, -⟩
  · exact ⟨hroles, hjustified⟩
  · cases h.symm.trans hfalse
  · cases h.symm.trans herror

/-- What the known whitelists justify is exempt, if no lookup fails. -/
theorem isExempt_of_exemptUnder (hroles : roles ≠ []) (hanswers : ∀ role ∈ roles, ∃ w, lookup role = .ok w)
    (h : e.ExemptUnder (known lookup roles)) : isExempt lookup roles e = .ok true := by
  rcases isExempt_cases lookup e hroles with ⟨htrue, -⟩ | ⟨-, -, hnot⟩ | ⟨fault, -, role, hrole, hfail⟩
  · exact htrue
  · exact absurd h hnot
  · obtain ⟨w, hw⟩ := hanswers role hrole
    cases hw.symm.trans hfail

/-- **An exempt event stays exempt** with more roles, with larger whitelists for the roles it has, on a
resource further down, with some of its permissions, and with any permissions if it has none, as long as no
lookup fails. -/
theorem isExempt_mono (hexempt : isExempt lookup roles e = .ok true) (hroles : roles ⊆ roles')
    (hanswers : ∀ role ∈ roles', ∃ w, lookup' role = .ok w)
    (hlarger : ∀ role ∈ roles, ∀ w w', lookup role = .ok w → lookup' role = .ok w' → w.Within w')
    (hasks : e'.AsksNoMore e) : isExempt lookup' roles' e' = .ok true := by
  obtain ⟨hne, hjustified⟩ := exemptUnder_of_isExempt hexempt
  refine isExempt_of_exemptUnder (fun hempty => hne (List.subset_nil.mp (hempty ▸ hroles))) hanswers ?_
  refine hjustified.mono (fun w hw => ?_) hasks
  obtain ⟨role, hrole, hlookup⟩ := mem_known_iff.mp hw
  obtain ⟨w', hlookup'⟩ := hanswers role (hroles hrole)
  exact ⟨w', mem_known_iff.mpr ⟨role, hroles hrole, hlookup'⟩, hlarger role hrole w w' hlookup hlookup'⟩

end Decision

/-- A lookup in which `bob` may read all data and change a keyspace, and other roles nothing. -/
def readersLookup : String → Except String Whitelist
  | "bob" => .ok [(.only .select, [.allData]), (.only .modify, [.keyspace "ks"])]
  | _ => .ok []

/-- A lookup in which `bob` may change another keyspace as well, and only `bob` and `eve` can be looked up. -/
def writersLookup : String → Except String Whitelist
  | "bob" => .ok [(.only .modify, [.keyspace "other", .keyspace "ks"]), (.only .select, [.allData])]
  | "eve" => .ok []
  | _ => .error "unavailable"

/-- Reading and changing a keyspace is exempt for `bob`; so is changing a table of it, for `bob` who is `eve`
too, when `bob` may change more. -/
theorem isExempt_writersLookup :
    isExempt readersLookup ["bob"] { readingTable [.select, .modify] with resource := .keyspace "ks" }
      = .ok true ∧
    (readingTable [.modify]).AsksNoMore
      { readingTable [.select, .modify] with resource := .keyspace "ks" } ∧
    isExempt writersLookup ["eve", "bob"] (readingTable [.modify]) = .ok true := by
  have hexempt : isExempt readersLookup ["bob"]
      { readingTable [.select, .modify] with resource := .keyspace "ks" } = .ok true := rfl
  have hasks : (readingTable [.modify]).AsksNoMore
      { readingTable [.select, .modify] with resource := .keyspace "ks" } :=
    ⟨.single rfl, .inr ⟨by decide, by decide⟩⟩
  refine ⟨hexempt, hasks, isExempt_mono hexempt (by decide) ?_ ?_ hasks⟩
  · simp only [List.forall_mem_cons, List.not_mem_nil, false_imp_iff, implies_true, and_true]
    exact ⟨⟨_, rfl⟩, ⟨_, rfl⟩⟩
  · simp only [List.forall_mem_singleton]
    rintro w w' hw hw'
    obtain rfl := Except.ok.inj hw
    obtain rfl := Except.ok.inj hw'
    refine Whitelist.Within.of_subset fun scope => ?_
    cases scope with
    | all => decide
    | only p => cases p <;> decide

end AuditTrail
