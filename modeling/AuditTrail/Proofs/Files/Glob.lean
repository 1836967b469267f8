import AuditTrail.Files.Glob

/-!
# Proofs/Files/Glob — patterns with one star

    stem ++ "_*" ++ suffix   fits   stem ++ "_" ++ anything ++ suffix

Characters that mean themselves are read as such (`parts_append`), so a pattern of such characters around
one star fits a name exactly when the name begins and ends so (`accepts_star_iff`).  Any pattern that has no
set fits its own text, with anything for a star (`accepts_star_of_hasNoSet`).
-/

namespace AuditTrail.Glob

/-- **Characters that mean themselves** in a pattern. -/
def IsPlain (cs : List Char) : Prop := ∀ c ∈ cs, c ≠ '*' ∧ c ≠ '?' ∧ c ≠ '['

instance (cs : List Char) : Decidable (IsPlain cs) := List.decidableBAll _ cs

theorem parts_append {cs : List Char} (h : IsPlain cs) (rest : List Char) :
    parts 0 (cs ++ rest) = cs.map GlobPart.char ++ parts 0 rest := by
  induction cs with
  | nil => rfl
  | cons c cs ih =>
    obtain ⟨⟨hstar, hone, hset⟩, hrest⟩ := List.forall_mem_cons.mp h
    rw [List.cons_append, parts, ih hrest]
    · rfl
    · exact hstar
    · exact hone
    · exact hset

theorem mem_suffixes {name rest : List Char} : rest ∈ suffixes name ↔ rest <:+ name := by
  induction name with
  | nil => rw [suffixes, List.mem_singleton, List.suffix_nil]
  | cons c name ih => rw [suffixes, List.mem_cons, ih, List.suffix_cons_iff]

/-- Plain characters fit themselves. -/
theorem accepts_chars_append_iff (cs name : List Char) (glob : Glob) :
    accepts (cs.map GlobPart.char ++ glob) name = true ↔
      ∃ rest, name = cs ++ rest ∧ accepts glob rest = true := by
  induction cs generalizing name with
  | nil => exact ⟨fun h => ⟨name, rfl, h⟩, fun ⟨_, heq, h⟩ => heq ▸ h⟩
  | cons c cs ih =>
    rw [List.map_cons, List.cons_append]
    cases name with
    | nil => exact iff_of_false nofun fun ⟨_, heq, _⟩ => List.cons_ne_nil _ _ heq.symm
    | cons d name =>
      rw [accepts, Bool.and_eq_true, beq_iff_eq, ih]
      constructor
      · rintro ⟨rfl, rest, rfl, h⟩
        exact ⟨rest, rfl, h⟩
      · rintro ⟨rest, heq, h⟩
        obtain ⟨rfl, rfl⟩ := List.cons.inj heq
        exact ⟨rfl, rest, rfl, h⟩

theorem accepts_chars_iff {cs name : List Char} :
    accepts (cs.map GlobPart.char) name = true ↔ name = cs := by
  have happend := accepts_chars_append_iff cs name []
  rw [List.append_nil] at happend
  rw [happend]
  constructor
  · rintro ⟨rest, rfl, h⟩
    rw [List.isEmpty_iff.mp h, List.append_nil]
  · rintro rfl
    exact ⟨[], (List.append_nil _).symm, rfl⟩

/-- **A star fits anything.** -/
theorem accepts_star_iff {front back name : List Char} (hfront : IsPlain front) (hback : IsPlain back) :
    accepts (parse (front ++ '*' :: back)) name = true ↔ ∃ middle, name = front ++ (middle ++ back) := by
  have hparts : parse (front ++ '*' :: back)
      = front.map GlobPart.char ++ .many :: back.map GlobPart.char := by
    have hrest := parts_append hback []
    rw [List.append_nil] at hrest
    have hend : parts 0 [] = [] := rfl
    rw [parse, parts_append hfront, parts, hrest, hend, List.append_nil]
  rw [hparts, accepts_chars_append_iff]
  constructor
  · rintro ⟨rest, rfl, h⟩
    rw [accepts, List.any_eq_true] at h
    obtain ⟨after, hafter, h⟩ := h
    obtain rfl := accepts_chars_iff.mp h
    obtain ⟨middle, rfl⟩ := mem_suffixes.mp hafter
    exact ⟨middle, rfl⟩
  · rintro ⟨middle, rfl⟩
    refine ⟨middle ++ back, rfl, ?_⟩
    rw [accepts, List.any_eq_true]
    exact ⟨back, mem_suffixes.mpr (List.suffix_append middle back), accepts_chars_iff.mpr rfl⟩

/-! ## A pattern that fits its own text -/

/-- The part is a set. -/
def isSet : GlobPart → Bool
  | .set _ _ => true
  | _ => false

/-- **A pattern without a set**: an opening bracket in it is never closed. -/
def HasNoSet (glob : Glob) : Prop := ∀ part ∈ glob, isSet part = false

instance (glob : Glob) : Decidable (HasNoSet glob) := List.decidableBAll _ glob

/-- The first character of the text fits what it is read as. -/
theorem accepts_cons_of_hasNoSet {c : Char} {rest : List Char} (h : HasNoSet (parts 0 (c :: rest))) :
    HasNoSet (parts 0 rest) ∧ ∀ name, accepts (parts 0 rest) name = true →
      accepts (parts 0 (c :: rest)) (c :: name) = true := by
  by_cases hmany : c = '*'
  · subst hmany
    have hparts : parts 0 ('*' :: rest) = .many :: parts 0 rest := rfl
    rw [hparts] at h ⊢
    refine ⟨(List.forall_mem_cons.mp h).2, fun name hname => ?_⟩
    rw [accepts, List.any_eq_true]
    exact ⟨name, mem_suffixes.mpr (List.suffix_cons _ name), hname⟩
  by_cases hone : c = '?'
  · subst hone
    have hparts : parts 0 ('?' :: rest) = .one :: parts 0 rest := rfl
    rw [hparts] at h ⊢
    exact ⟨(List.forall_mem_cons.mp h).2, fun name hname => hname⟩
  have hparts : parts 0 (c :: rest) = .char c :: parts 0 rest := by
    by_cases hset : c = '['
    · subst hset
      cases hclosing : closing? rest with
      | none => rw [parts, hclosing]
      | some closed =>
        rw [parts, hclosing] at h
        have hfirst := (List.forall_mem_cons.mp h).1
        unfold setOf at hfirst
        split at hfirst <;> cases hfirst
    · rw [parts]
      · exact hmany
      · exact hone
      · exact hset
  rw [hparts] at h ⊢
  refine ⟨(List.forall_mem_cons.mp h).2, fun name hname => ?_⟩
  rw [accepts, hname, beq_self_eq_true, Bool.and_self]

theorem accepts_parts_of_hasNoSet {cs : List Char} (h : HasNoSet (parts 0 cs)) :
    accepts (parts 0 cs) cs = true := by
  induction cs with
  | nil => rfl
  | cons c rest ih =>
    obtain ⟨hrest, hfits⟩ := accepts_cons_of_hasNoSet h
    exact hfits rest (ih hrest)

/-- **A pattern without a set fits its own text**, with anything for one of its stars. -/
theorem accepts_star_of_hasNoSet {front back : List Char} (h : HasNoSet (parse (front ++ '*' :: back)))
    (middle : List Char) : accepts (parse (front ++ '*' :: back)) (front ++ (middle ++ back)) = true := by
  unfold parse at h ⊢
  induction front with
  | nil =>
    have hparts : parts 0 ('*' :: back) = .many :: parts 0 back := rfl
    rw [List.nil_append, hparts] at h ⊢
    rw [List.nil_append, accepts, List.any_eq_true]
    refine ⟨back, mem_suffixes.mpr (List.suffix_append middle back), ?_⟩
    exact accepts_parts_of_hasNoSet (List.forall_mem_cons.mp h).2
  | cons c front ih =>
    obtain ⟨hrest, hfits⟩ := accepts_cons_of_hasNoSet h
    exact hfits _ (ih hrest)

end AuditTrail.Glob
