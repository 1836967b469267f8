import Mathlib.Algebra.Group.Nat.Defs
import Mathlib.Data.List.Lex
import AuditTrail.Number.Decimal

/-!
# Proofs/Number/Digits — numbers of a fixed width are in the order of their texts

    7 < 31        "007" < "031"        20240131 ↦ "2024" ++ "01" ++ "31"

`lastDigits` has one equation for a digit, `padded` is `lastDigits` of a number that fits
(`padded_eq_lastDigits`), numbers that stand next to each other are one number
(`lastDigits_append`), and a smaller number has a smaller text (`lastDigits_lt`).
-/

namespace AuditTrail.Number

variable {width m n : Nat}

/-- The last decimal digits of a number, zeros where it has none. -/
def lastDigits : (width n : Nat) → List Char
  | 0, _ => []
  | width + 1, n => lastDigits width (n / 10) ++ [(n % 10).digitChar]

@[simp] theorem length_lastDigits (width n : Nat) : (lastDigits width n).length = width := by
  induction width generalizing n with
  | zero => rfl
  | succ width ih => rw [lastDigits, List.length_append, ih, List.length_singleton]

theorem lastDigits_zero (width : Nat) : lastDigits width 0 = List.replicate width '0' := by
  induction width with
  | zero => rfl
  | succ width ih => rw [lastDigits, Nat.zero_div, ih, List.replicate_succ']; rfl

/-- **A number that fits** is padded to its last digits. -/
theorem padded_eq_lastDigits (h : n < 10 ^ (width + 1)) :
    padded (width + 1) n = lastDigits (width + 1) n := by
  induction width generalizing n with
  | zero =>
    have hn : n < 10 := h
    rw [padded, digitsOf, Nat.toDigits_of_lt_base hn, lastDigits, lastDigits, Nat.mod_eq_of_lt hn]
    rfl
  | succ width ih =>
    rw [lastDigits]
    by_cases hn : n < 10
    · rw [padded, digitsOf, Nat.toDigits_of_lt_base hn, Nat.div_eq_of_lt hn, Nat.mod_eq_of_lt hn,
        lastDigits_zero]
      rfl
    · have hrest : n / 10 < 10 ^ (width + 1) := by
        rw [Nat.div_lt_iff_lt_mul (by decide)]
        exact h
      rw [← ih hrest, padded, padded, digitsOf, digitsOf,
        Nat.toDigits_of_base_le (by decide) (Nat.le_of_not_lt hn), List.length_append,
        List.length_singleton, Nat.add_sub_add_right, List.append_assoc]

/-- Two numbers next to each other. -/
theorem lastDigits_append (v w : Nat) (m : Nat) (h : n < 10 ^ w) :
    lastDigits v m ++ lastDigits w n = lastDigits (v + w) (m * 10 ^ w + n) := by
  induction w generalizing n with
  | zero =>
    obtain rfl : n = 0 := Nat.lt_one_iff.mp h
    rw [lastDigits, List.append_nil, Nat.add_zero, Nat.pow_zero, Nat.mul_one, Nat.add_zero]
  | succ w ih =>
    have hrest : n / 10 < 10 ^ w := by
      rw [Nat.div_lt_iff_lt_mul (by decide)]
      exact h
    have hsplit : m * 10 ^ (w + 1) = 10 * (m * 10 ^ w) := by
      rw [Nat.pow_succ, ← Nat.mul_assoc, Nat.mul_comm]
    rw [lastDigits, ← List.append_assoc, ih hrest, ← Nat.add_assoc, lastDigits, hsplit,
      Nat.mul_add_div (by decide), Nat.mul_add_mod]

/-- The order of texts of one length is decided where they first differ. -/
theorem append_lt_append {as bs cs ds : List Char} (hlength : as.length = bs.length) (h : as < bs) :
    as ++ cs < bs ++ ds := by
  induction as generalizing bs with
  | nil =>
    obtain rfl := List.length_eq_zero_iff.mp hlength.symm
    exact absurd h (List.lt_irrefl [])
  | cons a as ih =>
    cases bs with
    | nil => cases hlength
    | cons b bs =>
      rw [List.cons_append, List.cons_append, List.cons_lt_cons_iff]
      rcases List.cons_lt_cons_iff.mp h with hlt | ⟨rfl, hlt⟩
      · exact .inl hlt
      · exact .inr ⟨rfl, ih (Nat.succ.inj hlength) hlt⟩

theorem digitChar_lt : ∀ n < 10, ∀ m < n, m.digitChar < n.digitChar := by
  decide

/-- **A smaller number has a smaller text.** -/
theorem lastDigits_lt (h : m < n) (hn : n < 10 ^ width) : lastDigits width m < lastDigits width n := by
  induction width generalizing m n with
  | zero => exact absurd (Nat.lt_one_iff.mp hn) (Nat.ne_of_gt (Nat.zero_lt_of_lt h))
  | succ width ih =>
    have hrest : n / 10 < 10 ^ width := by
      rw [Nat.div_lt_iff_lt_mul (by decide)]
      exact hn
    rw [lastDigits, lastDigits]
    rcases Nat.lt_or_eq_of_le (Nat.div_le_div_right (c := 10) h.le) with hlt | heq
    · exact append_lt_append (by rw [length_lastDigits, length_lastDigits]) (ih hlt hrest)
    · rw [heq]
      refine List.append_left_lt (List.cons_lt_cons_iff.mpr (.inl ?_))
      exact digitChar_lt _ (Nat.mod_lt n (by decide)) _ (by omega)

end AuditTrail.Number
