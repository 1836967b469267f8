import Mathlib.Data.List.Nodup

/-!
# Proofs/Lookup — association lists that are filtered by their keys, or cut

What stands under a key stays when the key passes the filter, and goes otherwise (`lookup_filter`), and
it goes with the entries that are dropped (`lookup_drop`).  A new entry hides what stood under its key
(`lookup_cons_filter`).
-/

namespace AuditTrail

variable {κ α : Type} [BEq κ] [LawfulBEq κ] [DecidableEq κ]

omit [DecidableEq κ] in
/-- **Filtering by key**: what stands under a key stays when the key passes, and goes otherwise. -/
theorem lookup_filter (p : κ → Bool) (entries : List (κ × α)) (key : κ) :
    (entries.filter fun entry => p entry.1).lookup key
      = if p key then entries.lookup key else none := by
  induction entries with
  | nil => rw [List.filter_nil, List.lookup_nil, ite_self]
  | cons entry rest ih =>
    obtain ⟨other, value⟩ := entry
    rw [List.filter_cons]
    dsimp only
    by_cases hsame : key = other
    · subst hsame
      by_cases hp : p key = true
      · rw [if_pos hp, if_pos hp, List.lookup_cons_self, List.lookup_cons_self]
      · rw [if_neg hp, if_neg hp, ih, if_neg hp]
    · have hother : (key == other) = false := beq_eq_false_iff_ne.mpr hsame
      have hskip : ((other, value) :: rest).lookup key = rest.lookup key := by
        rw [List.lookup_cons, hother]
      rw [hskip, ← ih]
      split
      · rw [List.lookup_cons, hother]
      · rfl

omit [LawfulBEq κ] [DecidableEq κ] in
/-- Changing what stands under the keys changes what stands under each. -/
theorem lookup_map_snd {β : Type} (f : α → β) (entries : List (κ × α)) (key : κ) :
    (entries.map fun entry => (entry.1, f entry.2)).lookup key = (entries.lookup key).map f := by
  induction entries with
  | nil => rfl
  | cons entry rest ih =>
    rw [List.map_cons, List.lookup_cons, List.lookup_cons, ih]
    cases key == entry.1 <;> rfl

omit [DecidableEq κ] in
/-- Something stands under the keys of the entries. -/
theorem lookup_isSome_iff {entries : List (κ × α)} {key : κ} :
    (entries.lookup key).isSome ↔ key ∈ entries.map (·.1) := by
  induction entries with
  | nil => exact iff_of_false nofun List.not_mem_nil
  | cons entry rest ih =>
    obtain ⟨other, value⟩ := entry
    rw [List.lookup_cons, List.map_cons, List.mem_cons]
    by_cases hsame : key = other
    · rw [beq_iff_eq.mpr hsame]
      exact iff_of_true rfl (.inl hsame)
    · rw [beq_eq_false_iff_ne.mpr hsame, or_iff_right hsame]
      exact ih

omit [DecidableEq κ] in
theorem lookup_eq_none_iff {entries : List (κ × α)} {key : κ} :
    entries.lookup key = none ↔ key ∉ entries.map (·.1) := by
  rw [← lookup_isSome_iff, Option.not_isSome_iff_eq_none]

omit [DecidableEq κ] in
/-- **Dropping the first entries**: what stood under their keys goes, and nothing else. -/
theorem lookup_drop {entries : List (κ × α)} (h : (entries.map (·.1)).Nodup) (n : Nat) (key : κ)
    [Decidable (key ∈ (entries.take n).map (·.1))] : (entries.drop n).lookup key
      = if key ∈ (entries.take n).map (·.1) then none else entries.lookup key := by
  have hsplit : entries.lookup key = ((entries.take n).lookup key).or ((entries.drop n).lookup key) := by
    rw [← List.lookup_append, List.take_append_drop]
  rw [← List.take_append_drop n entries, List.map_append] at h
  split
  case isTrue hmem => exact lookup_eq_none_iff.mpr (List.disjoint_of_nodup_append h hmem)
  case isFalse hmem => rw [hsplit, lookup_eq_none_iff.mpr hmem, Option.none_or]

/-- A new entry hides what stood under its key, and nothing else. -/
theorem lookup_cons_filter (entries : List (κ × α)) (key other : κ) (value : α) :
    ((key, value) :: entries.filter (·.1 ≠ key)).lookup other
      = if other = key then some value else entries.lookup other := by
  by_cases hsame : other = key
  · rw [if_pos hsame, hsame, List.lookup_cons_self]
  · have hpass := lookup_filter (fun k => decide (k ≠ key)) entries other
    rw [if_pos (decide_eq_true hsame)] at hpass
    rw [if_neg hsame, List.lookup_cons, beq_eq_false_iff_ne.mpr hsame, ← hpass]

end AuditTrail
