import Mathlib.Logic.Relation
import AuditTrail.Access.Name

/-!
# Proofs/Access/Hierarchy — resources under resources

    table k t ──▸ keyspace k ──▸ allData          role r ──▸ allRoles
    └───────── LiesUnder ──────────────┘

A resource lies under those that it reaches towards the root, itself included; its chain lists them
(`Resource.mem_chain_iff`).  So a resource is accepted by what is the same as one that it lies under
(`accepts_iff`), and every step towards the root makes the name shorter
(`Resource.length_name_lt_of_parent`).  A parent and a name make out a resource (`Resource.eq_of_parent_eq`).
-/

namespace AuditTrail

namespace Resource

/-! ## Sameness -/

theorem same_iff {a b : Resource} : a.same b = true ↔ a.kind = b.kind ∧ a.name = b.name := by
  rw [same, Bool.and_eq_true, beq_iff_eq, beq_iff_eq]

theorem same_comm {a b : Resource} : a.same b = true ↔ b.same a = true := by
  rw [same_iff, same_iff, eq_comm, eq_comm (a := a.name)]

/-- Resources that are the same are the same as the same ones. -/
theorem same_congr {a b : Resource} (h : a.same b = true) (c : Resource) : a.same c = b.same c := by
  obtain ⟨hkind, hname⟩ := same_iff.mp h
  rw [same, same, hkind, hname]

theorem same_refl (r : Resource) : r.same r = true := same_iff.mpr ⟨rfl, rfl⟩

/-! ## Parents -/

/-- A resource adds one part to its parent's name, in the same tree. -/
theorem exists_part_of_parent {r p : Resource} (h : r.parent = some p) : ∃ part,
    r.kind = p.kind ∧ r.components = p.components ++ [part] ∧ r.name = p.name ++ "/" ++ part := by
  cases r <;> cases h <;> exact ⟨_, rfl, rfl, rfl⟩

theorem parent_eq_none_iff {r : Resource} : r.parent = none ↔ r.components = [] := by
  cases r <;> simp [parent, components]

/-- The path of a resource leads to it. -/
theorem ofPath?_components (r : Resource) : ofPath? r.kind.root r.components = some r := by
  cases r <;> rfl

/-- A tree and the parts in it make out a resource. -/
theorem eq_of_components_eq {a b : Resource} (hkind : a.kind = b.kind)
    (hcomponents : a.components = b.components) : a = b := by
  refine Option.some.inj ?_
  rw [← ofPath?_components a, ← ofPath?_components b, hkind, hcomponents]

/-- **Roots are made out by their tree.** -/
theorem eq_of_parent_eq_none {a b : Resource} (ha : a.parent = none) (hb : b.parent = none)
    (hkind : a.kind = b.kind) : a = b :=
  eq_of_components_eq hkind ((parent_eq_none_iff.mp ha).trans (parent_eq_none_iff.mp hb).symm)

/-- **A resource is made out by its parent and its name.** -/
theorem eq_of_parent_eq {a b p : Resource} (ha : a.parent = some p) (hb : b.parent = some p)
    (hname : a.name = b.name) : a = b := by
  obtain ⟨x, hakind, hacomponents, haname⟩ := exists_part_of_parent ha
  obtain ⟨y, hbkind, hbcomponents, hbname⟩ := exists_part_of_parent hb
  have hpart : x = y := by
    rw [haname, hbname] at hname
    exact (String.append_right_inj _).mp hname
  exact eq_of_components_eq (hakind.trans hbkind.symm) (by rw [hacomponents, hbcomponents, hpart])

/-- **Every step towards the root makes the name shorter.** -/
theorem length_name_lt_of_parent {r p : Resource} (h : r.parent = some p) :
    p.name.length < r.name.length := by
  obtain ⟨part, -, -, hname⟩ := exists_part_of_parent h
  rw [hname, String.length_append, String.length_append]
  have hslash : "/".length = 1 := rfl
  omega

/-- Two steps lead to a root. -/
theorem parent_of_grandparent {r p g : Resource} (hr : r.parent = some p) (hp : p.parent = some g) :
    g.parent = none := by
  cases r <;> cases hr <;> cases hp <;> rfl

/-! ## Ancestors -/

/-- The resource is reached from another one towards the root, in any number of steps. -/
def LiesUnder (r ancestor : Resource) : Prop :=
  Relation.ReflTransGen (fun below above => below.parent = some above) r ancestor

/-- **The chain of a resource holds what the resource lies under.** -/
theorem mem_chain_iff {r ancestor : Resource} : ancestor ∈ r.chain ↔ r.LiesUnder ancestor := by
  constructor
  · -- A chain has at most three members, each the parent of the one before.
    intro h
    cases r <;> simp only [chain, List.mem_cons, List.not_mem_nil, or_false] at h
    case keyspace | role | functionsOf =>
      rcases h with rfl | rfl
      · exact .refl
      · exact .single rfl
    case table | function =>
      rcases h with rfl | rfl | rfl
      · exact .refl
      · exact .single rfl
      · exact .head rfl (.single rfl)
    all_goals
      subst h
      exact .refl
  · intro h
    induction h using Relation.ReflTransGen.head_induction_on with
    | refl =>
      rw [chain_eq]
      exact List.mem_cons_self
    | head hparent _ ih =>
      rw [chain_eq, hparent]
      exact List.mem_cons_of_mem _ ih

/-- A resource lies under itself and under what its parent lies under. -/
theorem liesUnder_iff {r ancestor : Resource} :
    r.LiesUnder ancestor ↔ ancestor = r ∨ ∃ p, r.parent = some p ∧ p.LiesUnder ancestor := by
  rw [LiesUnder, Relation.ReflTransGen.cases_head_iff, eq_comm]
  rfl

/-- A resource stays in the tree of what it lies under. -/
theorem LiesUnder.kind_eq {r ancestor : Resource} (h : r.LiesUnder ancestor) :
    r.kind = ancestor.kind := by
  induction h using Relation.ReflTransGen.head_induction_on with
  | refl => rfl
  | head hparent _ ih =>
    obtain ⟨_, hkind, -⟩ := exists_part_of_parent hparent
    exact hkind.trans ih

/-- What a resource lies under has no longer name. -/
theorem LiesUnder.length_name_le {r ancestor : Resource} (h : r.LiesUnder ancestor) :
    ancestor.name.length ≤ r.name.length := by
  induction h using Relation.ReflTransGen.head_induction_on with
  | refl => exact Nat.le_refl _
  | head hparent _ ih => exact Nat.le_trans ih (Nat.le_of_lt (length_name_lt_of_parent hparent))

/-- **What a resource lies under and is as long as is the resource.** -/
theorem LiesUnder.eq_of_length {r ancestor : Resource} (h : r.LiesUnder ancestor)
    (hlength : ancestor.name.length = r.name.length) : ancestor = r := by
  rcases liesUnder_iff.mp h with heq | ⟨p, hparent, habove⟩
  · exact heq
  · have hle := habove.length_name_le
    have hlt := length_name_lt_of_parent hparent
    omega

/-- Of two resources that one lies under, that of the longer name lies under the other. -/
theorem LiesUnder.of_length_le {r near far : Resource} (hnear : r.LiesUnder near) (hfar : r.LiesUnder far)
    (hle : far.name.length ≤ near.name.length) : near.LiesUnder far := by
  induction hnear using Relation.ReflTransGen.head_induction_on with
  | refl => exact hfar
  | head hparent habove ih =>
    refine ih ?_
    rcases liesUnder_iff.mp hfar with rfl | ⟨p, hp, hunder⟩
    · have hlt := length_name_lt_of_parent hparent
      have hle' := LiesUnder.length_name_le habove
      omega
    · obtain rfl := Option.some.inj (hparent.symm.trans hp)
      exact hunder

/-- Every resource lies under a root. -/
theorem exists_root (r : Resource) : ∃ root, r.LiesUnder root ∧ root.parent = none := by
  rcases hp : r.parent with _ | p
  · exact ⟨r, .refl, hp⟩
  rcases hg : p.parent with _ | g
  · exact ⟨p, .single hp, hg⟩
  · exact ⟨g, .head hp (.single hg), parent_of_grandparent hp hg⟩

end Resource

/-! ## Acceptance -/

theorem accepts_iff {listed r : Resource} :
    accepts listed r = true ↔ ∃ ancestor, r.LiesUnder ancestor ∧ ancestor.same listed = true := by
  rw [accepts, List.any_eq_true]
  exact exists_congr fun _ => and_congr_left fun _ => Resource.mem_chain_iff

end AuditTrail
