/-!
# Proofs/Outcome — work that may fail, over lists

Work that gives a value is taken apart at its binds (`bind_eq_ok_iff`).  `mapM` over a list gives a
value when it does for every member (`exists_mapM_eq_ok`), and it fails where the first member fails
(`mapM_eq_error`).  A question asked of the members in turn ends with the first that decides or fails
(`anyM_cases`, `allM_cases`).
-/

namespace AuditTrail

variable {ε α β : Type}

/-- Work in two parts gives a value when both do. -/
theorem bind_eq_ok_iff {x : Except ε α} {f : α → Except ε β} {b : β} :
    x >>= f = .ok b ↔ ∃ a, x = .ok a ∧ f a = .ok b := by
  cases x with
  | error e =>
    constructor
    · intro h
      cases h
    · rintro ⟨_, h, -⟩
      cases h
  | ok a =>
    constructor
    · intro h
      exact ⟨a, rfl, h⟩
    · rintro ⟨_, ha, h⟩
      obtain rfl := Except.ok.inj ha
      exact h

/-- Work in two parts fails when one of them does. -/
theorem bind_eq_error_iff {x : Except ε α} {f : α → Except ε β} {e : ε} :
    x >>= f = .error e ↔ x = .error e ∨ ∃ a, x = .ok a ∧ f a = .error e := by
  cases x with
  | error e' =>
    constructor
    · intro h
      exact .inl (congrArg Except.error (Except.error.inj h))
    · rintro (h | ⟨_, h, -⟩)
      · exact congrArg Except.error (Except.error.inj h)
      · cases h
  | ok a =>
    constructor
    · intro h
      exact .inr ⟨a, rfl, h⟩
    · rintro (h | ⟨_, ha, h⟩)
      · cases h
      · obtain rfl := Except.ok.inj ha
        exact h

/-- Changed work gives a value when the work does. -/
theorem map_eq_ok_iff {x : Except ε α} {f : α → β} {b : β} :
    x.map f = .ok b ↔ ∃ a, x = .ok a ∧ f a = b := by
  cases x with
  | error e =>
    constructor
    · intro h
      cases h
    · rintro ⟨_, h, -⟩
      cases h
  | ok a =>
    constructor
    · intro h
      exact ⟨a, rfl, Except.ok.inj h⟩
    · rintro ⟨_, ha, h⟩
      obtain rfl := Except.ok.inj ha
      exact congrArg Except.ok h

/-- Changed work fails when the work does. -/
theorem map_eq_error_iff {x : Except ε α} {f : α → β} {e : ε} :
    x.map f = .error e ↔ x = .error e := by
  cases x with
  | error e' => exact ⟨fun h => congrArg Except.error (Except.error.inj h), fun h => by rw [h]; rfl⟩
  | ok a => exact ⟨nofun, nofun⟩

/-- Work with its errors renamed gives the values that the work gives. -/
theorem mapError_eq_ok_iff {x : Except ε α} {f : ε → β} {a : α} :
    x.mapError f = .ok a ↔ x = .ok a := by
  cases x with
  | error e => exact ⟨nofun, nofun⟩
  | ok b => exact ⟨fun h => congrArg Except.ok (Except.ok.inj h), fun h => by rw [h]; rfl⟩

theorem toOption_eq_some_iff {x : Except ε α} {a : α} : x.toOption = some a ↔ x = .ok a := by
  cases x with
  | error e => exact iff_of_false nofun nofun
  | ok b => exact ⟨fun h => congrArg Except.ok (Option.some.inj h), fun h => congrArg some (Except.ok.inj h)⟩

/-- A member with what is before it: the first, or one of the others. -/
theorem exists_split_cons_iff {x y : α} {xs : List α} {P : List α → Prop} :
    (∃ before after, x :: xs = before ++ y :: after ∧ P before) ↔
      x = y ∧ P [] ∨ ∃ before after, xs = before ++ y :: after ∧ P (x :: before) := by
  constructor
  · rintro ⟨_ | ⟨first, before⟩, after, hsplit, hbefore⟩
    · exact .inl ⟨(List.cons.inj hsplit).1, hbefore⟩
    · obtain ⟨rfl, rfl⟩ := List.cons.inj hsplit
      exact .inr ⟨before, after, rfl, hbefore⟩
  · rintro (⟨rfl, hbefore⟩ | ⟨before, after, rfl, hbefore⟩)
    · exact ⟨[], xs, rfl, hbefore⟩
    · exact ⟨x :: before, after, rfl, hbefore⟩

/-- **The first member** that a property does not hold of. -/
theorem exists_first {P : α → Prop} {xs : List α} (h : ∃ x ∈ xs, ¬ P x) :
    ∃ before x after, xs = before ++ x :: after ∧ (∀ y ∈ before, P y) ∧ ¬ P x := by
  induction xs with
  | nil => exact absurd h nofun
  | cons first rest ih =>
    by_cases hfirst : P first
    · obtain ⟨x, hx, hnot⟩ := h
      have hrest : x ∈ rest := (List.mem_cons.mp hx).resolve_left fun heq => hnot (heq ▸ hfirst)
      obtain ⟨before, y, after, rfl, hbefore, hy⟩ := ih ⟨x, hrest, hnot⟩
      exact ⟨first :: before, y, after, rfl, List.forall_mem_cons.mpr ⟨hfirst, hbefore⟩, hy⟩
    · exact ⟨[], first, rest, rfl, nofun, hfirst⟩

section MapM

variable {f g : α → Except ε β} {x : α} {xs : List α} {ys : List β}

theorem mapM_cons_eq_ok_iff : (x :: xs).mapM f = .ok ys ↔
    ∃ y rest, f x = .ok y ∧ xs.mapM f = .ok rest ∧ ys = y :: rest := by
  rw [List.mapM_cons, bind_eq_ok_iff]
  constructor
  · rintro ⟨y, hy, h⟩
    obtain ⟨rest, hrest, hys⟩ := bind_eq_ok_iff.mp h
    exact ⟨y, rest, hy, hrest, (Except.ok.inj hys).symm⟩
  · rintro ⟨y, rest, hy, hrest, rfl⟩
    exact ⟨y, hy, bind_eq_ok_iff.mpr ⟨rest, hrest, rfl⟩⟩

theorem mapM_cons_eq_error_iff {e : ε} : (x :: xs).mapM f = .error e ↔
    f x = .error e ∨ ∃ y, f x = .ok y ∧ xs.mapM f = .error e := by
  rw [List.mapM_cons, bind_eq_error_iff]
  refine or_congr_right (exists_congr fun y => and_congr_right fun _ => ?_)
  rw [bind_eq_error_iff]
  constructor
  · rintro (h | ⟨rest, -, h⟩)
    · exact h
    · cases h
  · exact .inl

/-- There is a value for every member. -/
theorem length_of_mapM_eq_ok (h : xs.mapM f = .ok ys) : ys.length = xs.length := by
  induction xs generalizing ys with
  | nil =>
    obtain rfl : [] = ys := Except.ok.inj h
    rfl
  | cons x xs ih =>
    obtain ⟨y, rest, -, hrest, rfl⟩ := mapM_cons_eq_ok_iff.mp h
    rw [List.length_cons, List.length_cons, ih hrest]

/-- **Every value is that of a member.** -/
theorem exists_of_mem_of_mapM_eq_ok (h : xs.mapM f = .ok ys) : ∀ y ∈ ys, ∃ x ∈ xs, f x = .ok y := by
  induction xs generalizing ys with
  | nil =>
    obtain rfl : [] = ys := Except.ok.inj h
    exact fun y hy => absurd hy List.not_mem_nil
  | cons x xs ih =>
    obtain ⟨y, rest, hy, hrest, rfl⟩ := mapM_cons_eq_ok_iff.mp h
    refine List.forall_mem_cons.mpr ⟨⟨x, List.mem_cons_self, hy⟩, fun z hz => ?_⟩
    obtain ⟨w, hw, hwz⟩ := ih hrest z hz
    exact ⟨w, List.mem_cons_of_mem x hw, hwz⟩

/-- **Every member has a value.** -/
theorem exists_eq_ok_of_mapM_eq_ok (h : xs.mapM f = .ok ys) : ∀ x ∈ xs, ∃ y, f x = .ok y := by
  induction xs generalizing ys with
  | nil => exact fun x hx => absurd hx List.not_mem_nil
  | cons x xs ih =>
    obtain ⟨y, rest, hy, hrest, -⟩ := mapM_cons_eq_ok_iff.mp h
    exact List.forall_mem_cons.mpr ⟨⟨y, hy⟩, ih hrest⟩

/-- What can be read off each value is read off all. -/
theorem map_eq_of_mapM_eq_ok {g : β → α} (hg : ∀ x y, f x = .ok y → g y = x) (h : xs.mapM f = .ok ys) :
    ys.map g = xs := by
  induction xs generalizing ys with
  | nil =>
    obtain rfl : [] = ys := Except.ok.inj h
    rfl
  | cons x xs ih =>
    obtain ⟨y, rest, hy, hrest, rfl⟩ := mapM_cons_eq_ok_iff.mp h
    rw [List.map_cons, hg x y hy, ih hrest]

/-- **Work that never fails** on the members does not fail on the list. -/
theorem exists_mapM_eq_ok (h : ∀ x ∈ xs, ∃ y, f x = .ok y) : ∃ ys, xs.mapM f = .ok ys := by
  induction xs with
  | nil => exact ⟨[], rfl⟩
  | cons x xs ih =>
    obtain ⟨⟨y, hy⟩, hrest⟩ := List.forall_mem_cons.mp h
    obtain ⟨rest, hys⟩ := ih hrest
    exact ⟨y :: rest, mapM_cons_eq_ok_iff.mpr ⟨y, rest, hy, hys, rfl⟩⟩

/-- Work that agrees on the members agrees on the list. -/
theorem mapM_congr (h : ∀ x ∈ xs, f x = g x) : xs.mapM f = xs.mapM g := by
  induction xs with
  | nil => rfl
  | cons x xs ih =>
    obtain ⟨hx, hrest⟩ := List.forall_mem_cons.mp h
    rw [List.mapM_cons, List.mapM_cons, hx, ih hrest]

/-- **Work that gives the same values** on a list does so on every member. -/
theorem forall_eq_of_mapM_eq_ok (hf : xs.mapM f = .ok ys) (hg : xs.mapM g = .ok ys) :
    ∀ x ∈ xs, f x = g x := by
  induction xs generalizing ys with
  | nil => exact fun x hx => absurd hx List.not_mem_nil
  | cons x xs ih =>
    obtain ⟨y, rest, hy, hrest, rfl⟩ := mapM_cons_eq_ok_iff.mp hf
    obtain ⟨y', rest', hy', hrest', heq⟩ := mapM_cons_eq_ok_iff.mp hg
    obtain ⟨rfl, rfl⟩ := List.cons.inj heq
    exact List.forall_mem_cons.mpr ⟨hy.trans hy'.symm, ih hrest hrest'⟩

/-- **The failure of a list is that of its first failing member**, so it stays where only the values of
the others change. -/
theorem mapM_eq_error {e : ε} (hagree : ∀ x ∈ xs, f x = g x ∨ ∃ y z, f x = .ok y ∧ g x = .ok z)
    (h : xs.mapM f = .error e) : xs.mapM g = .error e := by
  induction xs with
  | nil => cases h
  | cons x xs ih =>
    obtain ⟨hx, hagree⟩ := List.forall_mem_cons.mp hagree
    refine mapM_cons_eq_error_iff.mpr ?_
    rcases mapM_cons_eq_error_iff.mp h with hfx | ⟨y, hfx, hrest⟩
    · rcases hx with heq | ⟨y, z, hy, -⟩
      · exact .inl (heq ▸ hfx)
      · cases hfx.symm.trans hy
    · rcases hx with heq | ⟨_, z, -, hz⟩
      · exact .inr ⟨y, heq ▸ hfx, ih hagree hrest⟩
      · exact .inr ⟨z, hz, ih hagree hrest⟩

/-- **A list fails where its first failing member does**, with the failure of that member. -/
theorem mapM_eq_error_iff {e : ε} : xs.mapM f = .error e ↔
    ∃ before x after, xs = before ++ x :: after ∧ (∀ y ∈ before, ∃ z, f y = .ok z) ∧ f x = .error e := by
  induction xs with
  | nil =>
    refine iff_of_false nofun ?_
    rintro ⟨before, x, after, hsplit, -⟩
    exact List.append_ne_nil_of_right_ne_nil before (List.cons_ne_nil x after) hsplit.symm
  | cons x xs ih =>
    rw [mapM_cons_eq_error_iff, ih]
    constructor
    · rintro (hx | ⟨z, hz, before, y, after, rfl, hbefore, hy⟩)
      · exact ⟨[], x, xs, rfl, nofun, hx⟩
      · exact ⟨x :: before, y, after, rfl, List.forall_mem_cons.mpr ⟨⟨z, hz⟩, hbefore⟩, hy⟩
    · rintro ⟨_ | ⟨first, before⟩, y, after, hsplit, hbefore, hy⟩
      · obtain ⟨rfl, rfl⟩ := List.cons.inj hsplit
        exact .inl hy
      · obtain ⟨rfl, rfl⟩ := List.cons.inj hsplit
        obtain ⟨⟨z, hz⟩, hbefore⟩ := List.forall_mem_cons.mp hbefore
        exact .inr ⟨z, hz, before, y, after, rfl, hbefore, hy⟩

end MapM

section AnyM

/-- **The three outcomes of asking for some member**: one says yes, all say no, or one that is asked
fails. -/
theorem anyM_cases (p : α → Except ε Bool) (xs : List α) :
    xs.anyM p = .ok true ∧ (∃ x ∈ xs, p x = .ok true) ∨
    xs.anyM p = .ok false ∧ (∀ x ∈ xs, p x = .ok false) ∨
    ∃ e, xs.anyM p = .error e ∧ ∃ x ∈ xs, p x = .error e := by
  induction xs with
  | nil => exact .inr (.inl ⟨rfl, fun x hx => absurd hx List.not_mem_nil⟩)
  | cons x xs ih =>
    rw [List.anyM]
    rcases hx : p x with e | _ | _
    · exact .inr (.inr ⟨e, rfl, x, List.mem_cons_self, hx⟩)
    · rcases ih with ⟨h, y, hy, hyes⟩ | ⟨h, hno⟩ | ⟨e, h, y, hy, hfail⟩
      · exact .inl ⟨h, y, List.mem_cons_of_mem x hy, hyes⟩
      · exact .inr (.inl ⟨h, List.forall_mem_cons.mpr ⟨hx, hno⟩⟩)
      · exact .inr (.inr ⟨e, h, y, List.mem_cons_of_mem x hy, hfail⟩)
    · exact .inl ⟨rfl, x, List.mem_cons_self, hx⟩

/-- **The three outcomes of asking for every member**: all say yes, one says no, or one that is asked
fails. -/
theorem allM_cases (p : α → Except ε Bool) (xs : List α) :
    xs.allM p = .ok true ∧ (∀ x ∈ xs, p x = .ok true) ∨
    xs.allM p = .ok false ∧ (∃ x ∈ xs, p x = .ok false) ∨
    ∃ e, xs.allM p = .error e ∧ ∃ x ∈ xs, p x = .error e := by
  induction xs with
  | nil => exact .inl ⟨rfl, fun x hx => absurd hx List.not_mem_nil⟩
  | cons x xs ih =>
    rw [List.allM]
    rcases hx : p x with e | _ | _
    · exact .inr (.inr ⟨e, rfl, x, List.mem_cons_self, hx⟩)
    · exact .inr (.inl ⟨rfl, x, List.mem_cons_self, hx⟩)
    · rcases ih with ⟨h, hyes⟩ | ⟨h, y, hy, hno⟩ | ⟨e, h, y, hy, hfail⟩
      · exact .inl ⟨h, List.forall_mem_cons.mpr ⟨hx, hyes⟩⟩
      · exact .inr (.inl ⟨h, y, List.mem_cons_of_mem x hy, hno⟩)
      · exact .inr (.inr ⟨e, h, y, List.mem_cons_of_mem x hy, hfail⟩)

end AnyM

end AuditTrail
