import Mathlib.Algebra.Order.Field.Power
import Mathlib.Algebra.Order.Field.Rat
import Mathlib.Tactic.FieldSimp
import Mathlib.Tactic.Linarith
import Mathlib.Tactic.NormNum
import Mathlib.Tactic.Positivity
import Mathlib.Tactic.Ring
import AuditTrail.Number.Binary64

/-!
# Proofs/Number/Nearest — how far a floating point number is from the quotient it stands for

    n / d  ──2 ^ -lastBit──▸  roundDiv  ──2 ^ lastBit──▸  significand · 2 ^ exponent

The last bit of a number is worth `2 ^ lastBit`, and rounding moves the quotient by half of it at most
(`abs_scaled_sub_le`).  So a quotient below `2 ^ k` is moved by `2 ^ (k - 54)` at most (`exists_ofRatio_near`),
and a natural number with 53 bits is not moved at all (`exists_ofRatio_exact`).
-/

namespace AuditTrail.Number

variable {n d : Nat} {k : Int}

/-! ## Powers and quotients -/

theorem cast_twoTo_toNat (h : 0 ≤ k) : ((twoTo k.toNat : Nat) : ℚ) = 2 ^ k := by
  obtain ⟨j, rfl⟩ := Int.eq_ofNat_of_zero_le h
  rw [Int.toNat_natCast, zpow_natCast]
  exact Nat.cast_pow 2 j

theorem cast_twoTo_toNat_neg (h : k ≤ 0) : ((twoTo (-k).toNat : Nat) : ℚ) = (2 ^ k)⁻¹ := by
  rw [cast_twoTo_toNat (by omega), zpow_neg]

/-- Rounding moves a quotient by one half at most. -/
theorem abs_roundDiv_sub_le (n : Nat) (hd : 0 < d) : |(roundDiv n d : ℚ) - n / d| ≤ 1 / 2 := by
  obtain ⟨hle, hge⟩ := roundDiv_near n d hd
  have hd' : (0 : ℚ) < d := Nat.cast_pos.mpr hd
  have hle' : (2 * (roundDiv n d * d) : ℚ) ≤ 2 * n + d := mod_cast hle
  have hge' : (2 * n : ℚ) ≤ 2 * (roundDiv n d * d) + d := mod_cast hge
  rw [abs_le]
  constructor
  · rw [neg_le_sub_iff_le_add, div_le_iff₀ hd']
    linarith
  · rw [sub_le_iff_le_add, ← sub_le_iff_le_add', le_div_iff₀ hd']
    linarith

/-- A quotient without a remainder is rounded to itself. -/
theorem roundDiv_mul (q : Nat) (hd : 0 < d) : roundDiv (q * d) d = q := by
  rw [roundDiv, Nat.mul_div_cancel q hd, Nat.mul_mod_left, if_neg (by omega)]

namespace Binary64

variable {negative : Bool}

/-! ## The last bit -/

theorem zpow_log2_le (hn : n ≠ 0) : (2 : ℚ) ^ (n.log2 : Int) ≤ n := by
  rw [zpow_natCast]
  exact_mod_cast Nat.log2_self_le hn

theorem lt_zpow_log2 (n : Nat) : (n : ℚ) < 2 ^ ((n.log2 : Int) + 1) := by
  rw [← Nat.cast_succ, zpow_natCast]
  exact_mod_cast Nat.lt_log2_self

/-- **The logarithm of a quotient** is the difference of the logarithms, or one less where the power of that
is above the quotient. -/
theorem floorLog2_cases (n : Nat) (hd : 0 < d) :
    (2 : ℚ) ^ ((n.log2 : Int) - d.log2) ≤ n / d ∧ floorLog2 n d = (n.log2 : Int) - d.log2 ∨
    (n : ℚ) / d < 2 ^ ((n.log2 : Int) - d.log2) ∧ floorLog2 n d = (n.log2 : Int) - d.log2 - 1 := by
  have hd' : (0 : ℚ) < d := Nat.cast_pos.mpr hd
  unfold floorLog2
  dsimp only
  generalize (n.log2 : Int) - d.log2 = k
  have hfits : (if 0 ≤ k then decide (d * twoTo k.toNat ≤ n) else decide (d ≤ n * twoTo (-k).toNat)) = true ↔
      (2 : ℚ) ^ k ≤ n / d := by
    rw [le_div_iff₀ hd']
    split
    case isTrue hpos =>
      rw [decide_eq_true_iff, ← cast_twoTo_toNat hpos, mul_comm]
      exact_mod_cast Iff.rfl
    case isFalse hneg =>
      have hcast : ((n * twoTo (-k).toNat : Nat) : ℚ) = n / 2 ^ k := by
        rw [Nat.cast_mul, cast_twoTo_toNat_neg (by omega), div_eq_mul_inv]
      rw [decide_eq_true_iff, mul_comm ((2 : ℚ) ^ k), ← le_div_iff₀ (by positivity), ← hcast, Nat.cast_le]
  by_cases hle : (2 : ℚ) ^ k ≤ n / d
  · exact .inl ⟨hle, if_pos (hfits.mpr hle)⟩
  · exact .inr ⟨not_le.mp hle, if_neg (mt hfits.mp hle)⟩

/-- The logarithm of a quotient is not above it. -/
theorem zpow_floorLog2_le (hn : n ≠ 0) (hd : 0 < d) : (2 : ℚ) ^ floorLog2 n d ≤ n / d := by
  have hd' : (0 : ℚ) < d := Nat.cast_pos.mpr hd
  rcases floorLog2_cases n hd with ⟨hle, heq⟩ | ⟨-, heq⟩
  · rwa [heq]
  · rw [heq, le_div_iff₀ hd']
    calc (2 : ℚ) ^ ((n.log2 : Int) - d.log2 - 1) * d
        ≤ 2 ^ ((n.log2 : Int) - d.log2 - 1) * 2 ^ ((d.log2 : Int) + 1) := by
          gcongr
          exact (lt_zpow_log2 d).le
      _ = 2 ^ (n.log2 : Int) := by
        rw [← zpow_add₀ (by norm_num)]
        congr 1
        omega
      _ ≤ n := zpow_log2_le hn

/-- **The exponent of the last bit** of the number nearest a quotient. -/
def lastBit (n d : Nat) : Int := max (floorLog2 n d - 52) lowestExponent

/-- The quotient in units of the last bit, rounded. -/
def scaled (n d : Nat) : Nat :=
  if 0 ≤ lastBit n d then roundDiv n (d * twoTo (lastBit n d).toNat)
  else roundDiv (n * twoTo (-lastBit n d).toNat) d

/-- **Rounding moves a quotient by half of the last bit** at most. -/
theorem abs_scaled_sub_le (n : Nat) (hd : 0 < d) :
    |(scaled n d : ℚ) * 2 ^ lastBit n d - n / d| ≤ 2 ^ lastBit n d / 2 := by
  have hunit : (0 : ℚ) < 2 ^ lastBit n d := by positivity
  have hd' : (0 : ℚ) < d := Nat.cast_pos.mpr hd
  have hscaled : |(scaled n d : ℚ) - n / d / 2 ^ lastBit n d| ≤ 1 / 2 := by
    rw [scaled]
    split
    case isTrue hpos =>
      have hnear := abs_roundDiv_sub_le n (Nat.mul_pos hd (Nat.two_pow_pos (lastBit n d).toNat))
      rw [Nat.cast_mul] at hnear
      change |_ - (n : ℚ) / (d * (twoTo (lastBit n d).toNat : Nat))| ≤ 1 / 2 at hnear
      rw [cast_twoTo_toNat hpos, ← div_div] at hnear
      exact hnear
    case isFalse hneg =>
      have hnear := abs_roundDiv_sub_le (n * twoTo (-lastBit n d).toNat) hd
      rw [Nat.cast_mul, cast_twoTo_toNat_neg (by omega), ← div_eq_mul_inv, div_right_comm] at hnear
      exact hnear
  calc |(scaled n d : ℚ) * 2 ^ lastBit n d - n / d|
      = |(scaled n d : ℚ) - n / d / 2 ^ lastBit n d| * 2 ^ lastBit n d := by
        rw [← abs_of_pos hunit, ← abs_mul, abs_of_pos hunit, sub_mul, div_mul_cancel₀ _ hunit.ne']
    _ ≤ 1 / 2 * 2 ^ lastBit n d := by gcongr
    _ = 2 ^ lastBit n d / 2 := by ring

theorem ofRatio_zero (negative : Bool) (d : Nat) : ofRatio negative 0 d = .finite negative 0 0 := if_pos rfl

/-- The number nearest a quotient in units of its last bit; a bit too many is carried. -/
theorem ofRatio_eq (negative : Bool) (hn : n ≠ 0) (d : Nat) : ofRatio negative n d =
    if scaled n d = twoTo 53 then
      if 971 < lastBit n d + 1 then .infinite negative else .finite negative (twoTo 52) (lastBit n d + 1)
    else if 971 < lastBit n d then .infinite negative else .finite negative (scaled n d) (lastBit n d) := by
  have hcarried : ofRatio negative n d = (fun carried : Nat × Int =>
      if 971 < carried.2 then infinite negative else finite negative carried.1 carried.2)
        (if scaled n d = twoTo 53 then (twoTo 52, lastBit n d + 1) else (scaled n d, lastBit n d)) :=
    if_neg hn
  rw [hcarried]
  by_cases hcarry : scaled n d = twoTo 53
  · rw [if_pos hcarry, if_pos hcarry]
  · rw [if_neg hcarry, if_neg hcarry]

/-- **The number nearest a quotient** is the rounded multiple of the last bit, or beyond the range. -/
theorem ofRatio_cases (negative : Bool) (hn : n ≠ 0) (d : Nat) :
    (∃ m e, ofRatio negative n d = .finite negative m e ∧
      (m : ℚ) * 2 ^ e = scaled n d * 2 ^ lastBit n d) ∨
    971 ≤ lastBit n d ∧ ofRatio negative n d = .infinite negative := by
  rw [ofRatio_eq negative hn]
  by_cases hcarry : scaled n d = twoTo 53
  · rw [if_pos hcarry]
    by_cases hrange : 971 < lastBit n d + 1
    · exact .inr ⟨by omega, if_pos hrange⟩
    · refine .inl ⟨_, _, if_neg hrange, ?_⟩
      have htwice : ((twoTo 53 : Nat) : ℚ) = (twoTo 52 : Nat) * 2 := by norm_num [twoTo]
      rw [hcarry, zpow_add_one₀ (by norm_num), htwice]
      ring
  · rw [if_neg hcarry]
    by_cases hrange : 971 < lastBit n d
    · exact .inr ⟨by omega, if_pos hrange⟩
    · exact .inl ⟨_, _, if_neg hrange, rfl⟩

/-! ## Numbers near quotients -/

/-- **A quotient below a power of two** has a number that is near it. -/
theorem exists_ofRatio_near (negative : Bool) (hd : 0 < d) (hk : -1021 ≤ k) (hk' : k ≤ 1023)
    (hlt : (n : ℚ) / d < 2 ^ k) : ∃ m e, ofRatio negative n d = .finite negative m e ∧
      |(m : ℚ) * 2 ^ e - n / d| ≤ 2 ^ (k - 54) := by
  by_cases hn : n = 0
  · refine ⟨0, 0, by rw [hn, ofRatio_zero], ?_⟩
    rw [hn, Nat.cast_zero, zero_div, zero_mul, sub_zero, abs_zero]
    positivity
  · have hlog : floorLog2 n d < k :=
      (zpow_lt_zpow_iff_right₀ (by norm_num)).mp ((zpow_floorLog2_le hn hd).trans_lt hlt)
    have hbit : lastBit n d ≤ k - 53 := by
      unfold lastBit lowestExponent
      omega
    rcases ofRatio_cases negative hn d with ⟨m, e, hfinite, hvalue⟩ | ⟨hlarge, -⟩
    · refine ⟨m, e, hfinite, ?_⟩
      calc |(m : ℚ) * 2 ^ e - n / d| ≤ 2 ^ lastBit n d / 2 := hvalue ▸ abs_scaled_sub_le n hd
        _ ≤ 2 ^ (k - 53) / 2 := by
          gcongr
          norm_num
        _ = 2 ^ (k - 54) := by
          rw [show k - 53 = k - 54 + 1 by omega, zpow_add_one₀ (by norm_num), mul_div_cancel_right₀]
          norm_num
    · omega

/-- **A natural number with 53 bits** is a number. -/
theorem exists_ofRatio_exact (negative : Bool) (q : Nat) (hd : 0 < d) (hq : q < 2 ^ 53) :
    ∃ m e, ofRatio negative (q * d) d = .finite negative m e ∧ (m : ℚ) * 2 ^ e = q := by
  by_cases hzero : q = 0
  · refine ⟨0, 0, by rw [hzero, zero_mul, ofRatio_zero], ?_⟩
    rw [hzero, Nat.cast_zero, zero_mul]
  · have hn : q * d ≠ 0 := Nat.mul_ne_zero hzero hd.ne'
    have hvalue : ((q * d : Nat) : ℚ) / d = q := by
      rw [Nat.cast_mul, mul_div_cancel_right₀]
      exact Nat.cast_ne_zero.mpr hd.ne'
    have hlog : floorLog2 (q * d) d < 53 := by
      refine (zpow_lt_zpow_iff_right₀ (by norm_num : (1 : ℚ) < 2)).mp
        ((zpow_floorLog2_le hn hd).trans_lt ?_)
      rw [hvalue]
      exact_mod_cast hq
    have hbit : lastBit (q * d) d ≤ 0 := by
      unfold lastBit lowestExponent
      omega
    have hscaled : (scaled (q * d) d : ℚ) * 2 ^ lastBit (q * d) d = q := by
      rw [scaled]
      split
      case isTrue hpos =>
        rw [le_antisymm hbit hpos, Int.toNat_zero, show d * twoTo 0 = d from Nat.mul_one d,
          roundDiv_mul q hd, zpow_zero, mul_one]
      case isFalse =>
        rw [Nat.mul_right_comm, roundDiv_mul _ hd, Nat.cast_mul, cast_twoTo_toNat_neg hbit,
          inv_mul_cancel_right₀ (zpow_ne_zero _ (by norm_num))]
    rcases ofRatio_cases negative hn d with ⟨m, e, hfinite, hm⟩ | ⟨hlarge, -⟩
    · exact ⟨m, e, hfinite, hm.trans hscaled⟩
    · omega

/-- **A quotient above a power of two** has no number far below it. -/
theorem zpow_le_of_ofRatio_eq {m : Nat} {e : Int} (hd : 0 < d) (hk : -1074 ≤ k)
    (hle : (2 : ℚ) ^ k ≤ n / d) (h : ofRatio negative n d = .finite negative m e) :
    (2 : ℚ) ^ (k - 1) ≤ m * 2 ^ e := by
  have hn : n ≠ 0 := by
    rintro rfl
    rw [Nat.cast_zero, zero_div] at hle
    exact absurd hle (not_le.mpr (by positivity))
  have hbit : (2 : ℚ) ^ lastBit n d ≤ n / d := by
    rcases max_cases (floorLog2 n d - 52) lowestExponent with ⟨heq, -⟩ | ⟨heq, -⟩
    · rw [lastBit, heq]
      exact (zpow_le_zpow_right₀ (by norm_num) (by omega)).trans (zpow_floorLog2_le hn hd)
    · rw [lastBit, heq]
      exact (zpow_le_zpow_right₀ (by norm_num) hk).trans hle
  rcases ofRatio_cases negative hn d with ⟨m', e', hfinite, hvalue⟩ | ⟨-, hinfinite⟩
  · obtain ⟨-, rfl, rfl⟩ := Binary64.finite.inj (hfinite.symm.trans h)
    have hnear := (abs_le.mp (abs_scaled_sub_le n hd)).1
    rw [hvalue, zpow_sub_one₀ (by norm_num)]
    linarith
  · cases hinfinite.symm.trans h

/-! ## The value as a quotient -/

/-- The value of a number is the quotient of its ratio. -/
theorem ratio_spec (m : Nat) (e : Int) :
    0 < (ratio m e).2 ∧ ((ratio m e).1 : ℚ) / (ratio m e).2 = m * 2 ^ e := by
  rw [ratio]
  split
  case isTrue hpos =>
    refine ⟨Nat.one_pos, ?_⟩
    rw [Nat.cast_mul, cast_twoTo_toNat hpos, Nat.cast_one, div_one]
  case isFalse hneg =>
    refine ⟨Nat.two_pow_pos _, ?_⟩
    rw [cast_twoTo_toNat_neg (by omega), div_inv_eq_mul]

/-- A number is rounded to a natural number by one half at most. -/
theorem abs_toNat_sub_le (negative : Bool) (m : Nat) (e : Int) :
    |((Binary64.finite negative m e).toNat : ℚ) - m * 2 ^ e| ≤ 1 / 2 := by
  obtain ⟨hpos, hvalue⟩ := ratio_spec m e
  rw [← hvalue]
  exact abs_roundDiv_sub_le _ hpos

/-- **The whole part of a number** that is between two natural numbers, and the fraction over it. -/
theorem ratio_div_eq {m q : Nat} {e : Int} (hle : (q : ℚ) ≤ m * 2 ^ e) (hlt : (m * 2 ^ e : ℚ) < q + 1) :
    (ratio m e).1 / (ratio m e).2 = q ∧
      (((ratio m e).1 % (ratio m e).2 : Nat) : ℚ) / (ratio m e).2 = m * 2 ^ e - q := by
  obtain ⟨hpos, hvalue⟩ := ratio_spec m e
  have hpos' : (0 : ℚ) < (ratio m e).2 := Nat.cast_pos.mpr hpos
  rw [← hvalue] at hle hlt ⊢
  rw [le_div_iff₀ hpos'] at hle
  rw [div_lt_iff₀ hpos'] at hlt
  have hdiv : (ratio m e).1 / (ratio m e).2 = q := Nat.div_eq_of_lt_le (mod_cast hle) (mod_cast hlt)
  refine ⟨hdiv, ?_⟩
  have hmod : (((ratio m e).1 : Nat) : ℚ) = (ratio m e).2 * q + ((ratio m e).1 % (ratio m e).2 : Nat) := by
    rw [← hdiv]
    exact_mod_cast (Nat.div_add_mod _ _).symm
  rw [hmod, add_div, mul_div_cancel_left₀ _ hpos'.ne', add_sub_cancel_left]

end Binary64

end AuditTrail.Number
