import AuditTrail.Proofs.Access.Acceptance
import AuditTrail.Proofs.Access.Reading

/-!
# Proofs/Access/PathOrder — acceptance is the order of paths

    data/ks  ──initial segment of──▸  data/ks/t          (`Resource.loweredPath`)
       │ parse                           │ parse
       ▾                                 ▾
    keyspace ks ◂──────lies under────  table ks t

A resource lies under another one exactly when the other one's parts come first among its own
(`Resource.liesUnder_iff_isPrefix`).  What is read from names is plain, so that sameness is equality there,
and acceptance is nothing but the order of the lowered paths (`Resource.accepts_iff_isPrefix`).
-/

namespace AuditTrail.Resource

variable {a b p r : Resource} {name name' : String}

/-! ## Parts along the way up -/

/-- A resource adds one part to those of its parent. -/
theorem exists_parts_eq_concat (h : r.parent = some p) : ∃ part, r.parts = p.parts ++ [part] := by
  obtain ⟨part, hkind, hcomponents, -⟩ := exists_part_of_parent h
  exact ⟨part, by rw [parts, parts, hkind, hcomponents, List.cons_append]⟩

/-- A root has no more parts than any resource. -/
theorem length_parts_le_of_root (hroot : r.parent = none) (a : Resource) :
    r.parts.length ≤ a.parts.length := by
  rw [parts, parent_eq_none_iff.mp hroot, parts, List.length_cons, List.length_cons]
  exact Nat.succ_le_succ (Nat.zero_le _)

/-- **A resource lies under those whose parts come first** among its own. -/
theorem liesUnder_iff_isPrefix : r.LiesUnder a ↔ a.parts <+: r.parts := by
  constructor
  · intro h
    induction h using Relation.ReflTransGen.head_induction_on with
    | refl => exact List.prefix_rfl
    | head hparent _ ih =>
      obtain ⟨part, hparts⟩ := exists_parts_eq_concat hparent
      exact hparts ▸ ih.trans (List.prefix_append _ [part])
  · -- From the resource to its root one part is taken off after the other, until those of `a` are left.
    intro h
    obtain ⟨root, hunder, hroot⟩ := exists_root r
    induction hunder using Relation.ReflTransGen.head_induction_on with
    | refl =>
      rw [eq_of_parts_eq (h.eq_of_length_le (length_parts_le_of_root hroot a))]
      exact .refl
    | head hparent _ ih =>
      obtain ⟨part, hparts⟩ := exists_parts_eq_concat hparent
      rw [hparts, List.prefix_concat_iff, ← hparts] at h
      rcases h with heq | hpaths
      · rw [eq_of_parts_eq heq]
        exact .refl
      · exact .head hparent (ih hpaths)

/-! ## Readable resources -/

/-- The keyspace is a component. -/
theorem IsReadable.isPlain (h : r.IsReadable) : r.IsPlain := by
  intro k hk
  refine (h.component k ?_).2
  cases r <;> cases hk <;> exact List.mem_cons_self

/-- **A readable resource accepts those that lie under it**, and no others. -/
theorem IsReadable.accepts_iff_liesUnder (ha : a.IsReadable) (hb : b.IsReadable) :
    accepts a b = true ↔ b.LiesUnder a := by
  rw [accepts_iff]
  constructor
  · rintro ⟨ancestor, hunder, hsame⟩
    obtain rfl := (hb.isPlain.of_liesUnder hunder).eq_of_same ha.isPlain hsame
    exact hunder
  · exact fun hunder => ⟨a, hunder, same_refl a⟩

/-- **On what is read from names acceptance is the order of paths**: the one accepts the other exactly when
its lowered path is an initial segment of the other's.  That is when it is in the other's chain itself, which
is the same as having a resource there that is the same.  So what accepts is in the same tree. -/
theorem accepts_iff_isPrefix (ha : parse name = .ok a) (hb : parse name' = .ok b) :
    (accepts a b = true ↔ loweredPath name <+: loweredPath name') ∧
    (accepts a b = true ↔ a ∈ b.chain) ∧
    (a ∈ b.chain ↔ ∃ ancestor ∈ b.chain, ancestor.same a = true) ∧
    (accepts a b = true → a.kind = b.kind) := by
  have hunder : accepts a b = true ↔ b.LiesUnder a :=
    (IsReadable.of_parse ha).accepts_iff_liesUnder (IsReadable.of_parse hb)
  refine ⟨?_, ?_, ?_, kind_eq_of_accepts⟩
  · rw [hunder, liesUnder_iff_isPrefix, (parse_eq_ok_iff.mp ha).2, (parse_eq_ok_iff.mp hb).2]
  · rw [hunder, mem_chain_iff]
  · rw [mem_chain_iff, ← hunder, accepts, List.any_eq_true]

/-- A keyspace accepts a table in it, however its name is written, and not one of a keyspace that only
starts like it. -/
theorem accepts_shoutedKeyspace :
    parse " DATA/ks " = .ok (keyspace "ks") ∧ parse "Data/ks/t" = .ok (table "ks" "t") ∧
    accepts (keyspace "ks") (table "ks" "t") = true ∧ keyspace "ks" ∈ (table "ks" "t").chain ∧
    ¬ loweredPath " DATA/ks " <+: loweredPath "data/ks2/t" := by
  have hks : parse " DATA/ks " = .ok (keyspace "ks") := by decide +kernel
  have ht : parse "Data/ks/t" = .ok (table "ks" "t") := by decide +kernel
  have ht2 : parse "data/ks2/t" = .ok (table "ks2" "t") := by decide +kernel
  obtain ⟨hpaths, hchain, -, -⟩ := accepts_iff_isPrefix hks ht
  have haccepts := hpaths.mpr (by decide +kernel)
  refine ⟨hks, ht, haccepts, hchain.mp haccepts, fun h => ?_⟩
  exact Bool.false_ne_true ((accepts_iff_isPrefix hks ht2).1.mpr h)

end AuditTrail.Resource
