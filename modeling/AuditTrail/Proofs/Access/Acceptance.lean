import AuditTrail.Proofs.Access.Hierarchy

/-!
# Proofs/Access/Acceptance — equal names over unequal ancestors

    data ◂── data/a ◂── table "a" "b/c" ┐
                                        ├─ both named data/a/b/c
    data ◂── data/a/b ◂── table "a/b" "c" ┘

Sameness looks at names, acceptance walks parents.  What is the same accepts the same resources
(`accepts_congr_left`), and it is accepted by the same ones exactly when it is one and the same resource
(`eq_of_accepted_alike`).  Acceptance is reflexive, and it passes through a resource exactly when that very
resource, and not just one of its name, is on the way up (`accepts_trans_iff`).  Both reservations vanish
for keyspaces without a slash, whose names can be cut in one way only (`Resource.IsPlain.eq_of_same`).
-/

namespace AuditTrail

namespace Resource

/-! ## Sameness and parents -/

variable {a b c p q r : Resource}

/-- A root accepts its tree. -/
theorem accepts_of_root (h : a.parent = none) (hkind : a.kind = r.kind) : accepts a r = true := by
  obtain ⟨root, hunder, hroot⟩ := exists_root r
  obtain rfl : root = a := eq_of_parent_eq_none hroot h (hunder.kind_eq.symm.trans hkind.symm)
  exact accepts_iff.mpr ⟨root, hunder, same_refl root⟩

/-- What is the same as a root is the root: below a root, names are longer. -/
theorem eq_of_same_of_root (ha : a.parent = none) (h : a.same b = true) : a = b := by
  obtain ⟨hkind, hname⟩ := same_iff.mp h
  obtain ⟨root, hunder, hroot⟩ := exists_root b
  obtain rfl : a = root := eq_of_parent_eq_none ha hroot (hkind.trans hunder.kind_eq)
  exact hunder.eq_of_length (congrArg String.length hname)

/-- **Parents that are the same are equal**: what lies below them lies two steps from a root at most, so
each of them is a root or right below one. -/
theorem eq_of_same_of_parents (ha : a.parent = some p) (hb : b.parent = some q)
    (h : p.same q = true) : p = q := by
  rcases hp : p.parent with _ | g
  · exact eq_of_same_of_root hp h
  rcases hq : q.parent with _ | g'
  · exact (eq_of_same_of_root hq (same_comm.mp h)).symm
  obtain ⟨hkind, hname⟩ := same_iff.mp h
  have hgrand : g = g' := by
    obtain ⟨_, hpkind, -⟩ := exists_part_of_parent hp
    obtain ⟨_, hqkind, -⟩ := exists_part_of_parent hq
    exact eq_of_parent_eq_none (parent_of_grandparent ha hp) (parent_of_grandparent hb hq)
      (hpkind.symm.trans (hkind.trans hqkind))
  exact eq_of_parent_eq hp (hgrand ▸ hq) hname

/-! ## Acceptance -/

theorem accepts_refl (r : Resource) : accepts r r = true := accepts_iff.mpr ⟨r, .refl, same_refl r⟩

/-- **Resources that are the same accept the same ones.** -/
theorem accepts_congr_left (h : a.same b = true) (r : Resource) : accepts a r = accepts b r := by
  rw [accepts, accepts]
  refine congrArg (r.chain.any ·) (funext fun ancestor => ?_)
  rw [Bool.eq_iff_iff, same_comm, same_congr h, same_comm]

/-- A resource is accepted by what it is the same as, and by what accepts its parent. -/
theorem accepts_of_parent (h : r.parent = some p) :
    accepts a r = true ↔ r.same a = true ∨ accepts a p = true := by
  rw [accepts_iff, accepts_iff]
  constructor
  · rintro ⟨x, hunder, hsame⟩
    rcases liesUnder_iff.mp hunder with rfl | ⟨p', hp', habove⟩
    · exact .inl hsame
    · obtain rfl := Option.some.inj (h.symm.trans hp')
      exact .inr ⟨x, habove, hsame⟩
  · rintro (hsame | ⟨x, hunder, hsame⟩)
    · exact ⟨r, .refl, hsame⟩
    · exact ⟨x, .head h hunder, hsame⟩

/-- What accepts is in the same tree. -/
theorem kind_eq_of_accepts (h : accepts a r = true) : a.kind = r.kind := by
  obtain ⟨x, hunder, hsame⟩ := accepts_iff.mp h
  exact (same_iff.mp hsame).1.symm.trans hunder.kind_eq.symm

/-- What accepts has no longer name. -/
theorem length_name_le_of_accepts (h : accepts a r = true) : a.name.length ≤ r.name.length := by
  obtain ⟨x, hunder, hsame⟩ := accepts_iff.mp h
  rw [← (same_iff.mp hsame).2]
  exact hunder.length_name_le

/-- What accepts a resource of no shorter name is the same. -/
theorem same_of_accepts_of_length (h : accepts a r = true) (hlength : r.name.length ≤ a.name.length) :
    r.same a = true := by
  obtain ⟨x, hunder, hsame⟩ := accepts_iff.mp h
  have hle := hunder.length_name_le
  have hname := congrArg String.length (same_iff.mp hsame).2
  obtain rfl := hunder.eq_of_length (by omega)
  exact hsame

/-- The parent of a resource is accepted below the parent of another one that is accepted alike. -/
theorem accepts_parents (hname : a.name = b.name) (h : ∀ w, accepts w a = accepts w b)
    (ha : a.parent = some p) (hb : b.parent = some q) : accepts p q = true := by
  have hpb : accepts p b = true := by
    rw [← h p]
    exact accepts_iff.mpr ⟨p, .single ha, same_refl p⟩
  refine ((accepts_of_parent hb).mp hpb).resolve_left fun hsame => ?_
  have hlt := length_name_lt_of_parent ha
  rw [hname, (same_iff.mp hsame).2] at hlt
  exact Nat.lt_irrefl _ hlt

/-- **The same resources that the same ones accept are equal.** -/
theorem eq_of_accepted_alike (hsame : a.same b = true) (h : ∀ w, accepts w a = accepts w b) : a = b := by
  rcases hp : a.parent with _ | p
  · exact eq_of_same_of_root hp hsame
  rcases hq : b.parent with _ | q
  · exact (eq_of_same_of_root hq (same_comm.mp hsame)).symm
  have hname : a.name = b.name := (same_iff.mp hsame).2
  -- Each parent accepts the other, so that neither name is longer.
  have hpq : accepts p q = true := accepts_parents hname h hp hq
  have hqp : accepts q p = true := accepts_parents hname.symm (fun w => (h w).symm) hq hp
  have hparents : p = q := eq_of_same_of_parents hp hq
    (same_of_accepts_of_length hqp (length_name_le_of_accepts hpq))
  exact eq_of_parent_eq hp (hparents ▸ hq) hname

/-! ## Transitivity -/

/-- Acceptance passes through what is on the way up. -/
theorem accepts_of_liesUnder (hab : accepts a b = true) (hunder : c.LiesUnder b) :
    accepts a c = true := by
  obtain ⟨x, habove, hsame⟩ := accepts_iff.mp hab
  exact accepts_iff.mpr ⟨x, hunder.trans habove, hsame⟩

/-- What accepts a resource accepts what is on the way up, if its own name is no longer. -/
theorem accepts_on_the_way (hac : accepts a c = true) (hunder : c.LiesUnder b)
    (hle : a.name.length ≤ b.name.length) : accepts a b = true := by
  obtain ⟨x, habove, hsame⟩ := accepts_iff.mp hac
  rw [← (same_iff.mp hsame).2] at hle
  exact accepts_iff.mpr ⟨x, hunder.of_length_le habove hle, hsame⟩

/-- **What accepts a resource, neither as the same nor as the root, is its parent.** -/
theorem parent_same_of_accepts (hab : accepts a b = true) (hnot : ¬ a.same b = true)
    (hroot : a.parent ≠ none) : ∃ p, b.parent = some p ∧ p.same a = true := by
  obtain ⟨x, hunder, hsame⟩ := accepts_iff.mp hab
  rcases liesUnder_iff.mp hunder with rfl | ⟨p, hp, habove⟩
  · exact absurd (same_comm.mp hsame) hnot
  rcases liesUnder_iff.mp habove with rfl | ⟨g, hg, habove'⟩
  · exact ⟨x, hp, hsame⟩
  · -- Two steps up is the root, which is like nothing but itself.
    have hgroot := parent_of_grandparent hp hg
    rcases liesUnder_iff.mp habove' with rfl | ⟨_, hnone, -⟩
    · obtain rfl := eq_of_same_of_root hgroot hsame
      exact absurd hgroot hroot
    · cases hgroot.symm.trans hnone

/-- **Acceptance passes through a resource** exactly when that very resource is on the way up, unless
what accepts it is the same, or is the root. -/
theorem accepts_trans_iff (hab : accepts a b = true) (hbc : accepts b c = true) :
    accepts a c = true ↔ c.LiesUnder b ∨ a.same b = true ∨ a.parent = none := by
  constructor
  · intro hac
    by_cases hsame : a.same b = true
    · exact .inr (.inl hsame)
    by_cases hroot : a.parent = none
    · exact .inr (.inr hroot)
    -- What is on the way up and named like `b` has a parent named like that of `b`.
    obtain ⟨p, hp, hpa⟩ := parent_same_of_accepts hab hsame hroot
    obtain ⟨d, hunder, hdb⟩ := accepts_iff.mp hbc
    have hname : d.name = b.name := (same_iff.mp hdb).2
    have hlt : a.name.length < d.name.length := by
      rw [hname, ← (same_iff.mp hpa).2]
      exact length_name_lt_of_parent hp
    have had : accepts a d = true := accepts_on_the_way hac hunder (Nat.le_of_lt hlt)
    have hnot : ¬ a.same d = true := fun h => Nat.ne_of_lt hlt (congrArg String.length (same_iff.mp h).2)
    obtain ⟨q, hq, hqa⟩ := parent_same_of_accepts had hnot hroot
    have hparents : p = q :=
      eq_of_same_of_parents hp hq ((same_congr hpa q).trans (same_comm.mp hqa))
    obtain rfl : d = b := eq_of_parent_eq hq (hparents ▸ hp) hname
    exact .inl hunder
  · rintro (hunder | hsame | hroot)
    · exact accepts_of_liesUnder hab hunder
    · rw [accepts_congr_left hsame]
      exact hbc
    · exact accepts_of_root hroot ((kind_eq_of_accepts hab).trans (kind_eq_of_accepts hbc))

/-! ## Keyspaces without a slash -/

/-- The keyspace of a resource, under which others can lie. -/
def keyspace? : Resource → Option String
  | keyspace k | table k _ | functionsOf k | function k _ => some k
  | _ => none

/-- **The keyspace has no slash**, if there is one. -/
def IsPlain (r : Resource) : Prop := ∀ k ∈ r.keyspace?, '/' ∉ k.toList

instance (r : Resource) : Decidable r.IsPlain := inferInstanceAs (Decidable (∀ k ∈ r.keyspace?, _))

/-- A plain resource has plain parents. -/
theorem IsPlain.of_parent (hplain : r.IsPlain) (h : r.parent = some p) : p.IsPlain := by
  cases r <;> cases h <;> first | exact hplain | exact nofun

theorem IsPlain.of_liesUnder (hplain : r.IsPlain) (h : r.LiesUnder a) : a.IsPlain := by
  induction h using Relation.ReflTransGen.head_induction_on with
  | refl => exact hplain
  | head hparent _ ih => exact ih (hplain.of_parent hparent)

/-- Outside the roles the keyspace is the first part of the name. -/
theorem keyspace?_eq (h : r.kind ≠ .role) : r.keyspace? = r.components.head? := by
  cases r <;> first | rfl | exact absurd rfl h

/-- No role has a role below it. -/
theorem kind_ne_role_of_grandparent (hr : r.parent = some p) (hp : p.parent = some q) :
    r.kind ≠ .role := by
  cases r <;> cases hr <;> cases hp <;> exact nofun

/-- Texts without a slash that are followed by one are equal where what they start is. -/
theorem eq_of_append_slash_eq {k k' x y : String} (hk : '/' ∉ k.toList) (hk' : '/' ∉ k'.toList)
    (h : k ++ "/" ++ x = k' ++ "/" ++ y) : k = k' := by
  have hcut {k x : String} (hk : '/' ∉ k.toList) :
      (k ++ "/" ++ x).toList.takeWhile (· ≠ '/') = k.toList := by
    have hslash : "/".toList = ['/'] := rfl
    rw [String.toList_append, String.toList_append, hslash, List.append_assoc,
      List.takeWhile_append_of_pos fun c hc => decide_eq_true (ne_of_mem_of_not_mem hc hk)]
    simp
  rw [← String.toList_inj, ← hcut hk, ← hcut hk', h]

/-- A plain resource right below the root is not the same as one that lies deeper. -/
theorem IsPlain.not_same (ha : a.IsPlain) (hp : a.parent = some p) (hroot : p.parent = none)
    (hq : b.parent = some q) (hr : q.parent = some r) : ¬ a.same b = true := by
  intro h
  obtain ⟨hkind, hname⟩ := same_iff.mp h
  obtain ⟨x, hap, hx, haname⟩ := exists_part_of_parent hp
  obtain ⟨y, hbq, -, hbname⟩ := exists_part_of_parent hq
  obtain ⟨k, hqr, -, hqname⟩ := exists_part_of_parent hr
  obtain rfl : p = r := eq_of_parent_eq_none hroot (parent_of_grandparent hq hr)
    (hap.symm.trans (hkind.trans (hbq.trans hqr)))
  have hkeyspace : a.keyspace? = some x := by
    rw [keyspace?_eq (hkind ▸ kind_ne_role_of_grandparent hq hr), hx, parent_eq_none_iff.mp hroot]
    rfl
  have hpart : x = k ++ ("/" ++ y) := by
    rw [haname, hbname, hqname] at hname
    simpa only [String.append_assoc, String.append_right_inj] using hname
  refine ha x hkeyspace ?_
  rw [hpart, String.toList_append, String.toList_append]
  exact List.mem_append_right _ (List.mem_append_left _ List.mem_cons_self)

/-- The keyspace of what lies two steps below a root. -/
theorem IsPlain.not_mem_of_grandparent (hplain : r.IsPlain) (hr : r.parent = some p) {k : String}
    (hp : p.parent = some q) (hk : p.components = q.components ++ [k]) : '/' ∉ k.toList := by
  obtain ⟨_, -, hcomponents, -⟩ := exists_part_of_parent hr
  refine hplain k ?_
  rw [keyspace?_eq (kind_ne_role_of_grandparent hr hp), hcomponents, hk,
    parent_eq_none_iff.mp (parent_of_grandparent hr hp)]
  rfl

/-- **Plain resources that are the same are equal**: their names are cut behind the keyspace in one way
only. -/
theorem IsPlain.eq_of_same (ha : a.IsPlain) (hb : b.IsPlain) (h : a.same b = true) : a = b := by
  obtain ⟨hkind, hname⟩ := same_iff.mp h
  rcases hp : a.parent with _ | p
  · exact eq_of_same_of_root hp h
  rcases hq : b.parent with _ | q
  · exact (eq_of_same_of_root hq (same_comm.mp h)).symm
  obtain ⟨x, hap, -, haname⟩ := exists_part_of_parent hp
  obtain ⟨y, hbq, -, hbname⟩ := exists_part_of_parent hq
  have hpq : p.kind = q.kind := hap.symm.trans (hkind.trans hbq)
  suffices hparents : p = q from eq_of_parent_eq hp (hparents ▸ hq) hname
  rcases hg : p.parent with _ | g <;> rcases hg' : q.parent with _ | g'
  · exact eq_of_parent_eq_none hg hg' hpq
  · exact absurd h (ha.not_same hp hg hq hg')
  · exact absurd (same_comm.mp h) (hb.not_same hq hg' hp hg)
  · obtain ⟨k, hpg, hk, hpname⟩ := exists_part_of_parent hg
    obtain ⟨k', hqg, hk', hqname⟩ := exists_part_of_parent hg'
    obtain rfl : g = g' := eq_of_parent_eq_none (parent_of_grandparent hp hg)
      (parent_of_grandparent hq hg') (hpg.symm.trans (hpq.trans hqg))
    have hcut : k ++ "/" ++ x = k' ++ "/" ++ y := by
      rw [haname, hbname, hpname, hqname] at hname
      simpa only [String.append_assoc, String.append_right_inj] using hname
    obtain rfl : k = k' := eq_of_append_slash_eq (ha.not_mem_of_grandparent hp hg hk)
      (hb.not_mem_of_grandparent hq hg' hk') hcut
    exact eq_of_parent_eq hg hg' (hpname.trans hqname.symm)

/-! ## What equal names are good for -/

/-- **How far acceptance respects sameness.**  Resources that are the same accept the same ones; they are
accepted by the same ones exactly when they are equal.  Acceptance is reflexive; it passes through a
resource exactly when that very resource is on the way up, but for what is the same and for the root.  So
between plain resources, where sameness is equality, acceptance respects it and is transitive. -/
theorem same_accepted_alike_iff (a b c : Resource) :
    (a.same b = true → (∀ r, accepts a r = accepts b r) ∧ ((∀ w, accepts w a = accepts w b) ↔ a = b)) ∧
    accepts a a = true ∧
    (accepts a b = true → accepts b c = true →
      (accepts a c = true ↔ c.LiesUnder b ∨ a.same b = true ∨ a.parent = none)) ∧
    (a.IsPlain → b.IsPlain → (a.same b = true ↔ a = b)) ∧
    (b.IsPlain → c.IsPlain → accepts a b = true → accepts b c = true → accepts a c = true) := by
  refine ⟨fun h => ⟨accepts_congr_left h, eq_of_accepted_alike h, ?_⟩, accepts_refl a, accepts_trans_iff,
    fun ha hb => ⟨ha.eq_of_same hb, ?_⟩, fun hb hc hab hbc => ?_⟩
  · rintro rfl w
    rfl
  · rintro rfl
    exact same_refl a
  · obtain ⟨d, hunder, hsame⟩ := accepts_iff.mp hbc
    obtain rfl : d = b := (hc.of_liesUnder hunder).eq_of_same hb hsame
    exact accepts_of_liesUnder hab hunder

/-- Two resources of one name are told apart by what accepts them; below a plain keyspace, acceptance
passes through to a table with a slash in its name. -/
theorem accepted_alike_slashed_table :
    (keyspace "a/b").same (table "a" "b") = true ∧
    ¬ (∀ w, accepts w (keyspace "a/b") = accepts w (table "a" "b")) ∧
    (keyspace "ks").IsPlain ∧ (table "ks" "t/u").IsPlain ∧
    accepts allData (keyspace "ks") = true ∧ accepts (keyspace "ks") (table "ks" "t/u") = true ∧
    accepts allData (table "ks" "t/u") = true := by
  obtain ⟨hsame, -⟩ := same_accepted_alike_iff (keyspace "a/b") (table "a" "b") allData
  obtain ⟨-, -, -, -, htrans⟩ := same_accepted_alike_iff allData (keyspace "ks") (table "ks" "t/u")
  have halike := (hsame rfl).2
  exact ⟨rfl, (fun h => nomatch halike.mp h), by decide, by decide, rfl, rfl,
    htrans (by decide) (by decide) rfl rfl⟩

/-- **Sameness does not go with acceptance everywhere**: a table is the same as a keyspace with a slash in
its name, but the keyspace of the table accepts the table alone, and so acceptance stops at the table. -/
theorem slashed_keyspace_unlike_table :
    ¬ ((∀ a b : Resource, a.same b = true → ∀ w, accepts w a = accepts w b) ∧
      ∀ a b c : Resource, accepts a b = true → accepts b c = true → accepts a c = true) ∧
    (keyspace "a/b").same (table "a" "b") = true ∧
    accepts (keyspace "a") (table "a" "b") = true ∧ accepts (keyspace "a") (keyspace "a/b") = false ∧
    accepts (table "a" "b") (keyspace "a/b") = true :=
  ⟨fun h => Bool.false_ne_true (h.1 (keyspace "a/b") (table "a" "b") rfl (keyspace "a")), rfl, rfl, rfl, rfl⟩

end Resource

end AuditTrail
