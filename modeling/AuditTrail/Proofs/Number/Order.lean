import AuditTrail.Proofs.Number.Nearest

/-!
# Proofs/Number/Order — rounding keeps the order

    n / d  ≤  n' / d'   ──▸   rounded n d  ≤  rounded n' d'

Of two quotients with the same last bit, the larger one is rounded to as many of it at least (`scaled_mono`);
and what has a lower last bit stays below all that has a higher one, since `2 ^ 53` of the one are `2 ^ 52` of
the other at most (`rounded_mono`).  So a limit that is below a number is below every larger one
(`isBelow_ofRat_mono`).
-/

namespace AuditTrail.Number

variable {n d n' d' : Nat}

/-! ## Quotients -/

/-- Only the quotient counts. -/
theorem roundDiv_mul_mul {k : Nat} (n d : Nat) (hk : 0 < k) : roundDiv (n * k) (d * k) = roundDiv n d := by
  have htwice : 2 * (n % d * k) = 2 * (n % d) * k := (Nat.mul_assoc _ _ _).symm
  unfold roundDiv
  simp only [Nat.mul_div_mul_right _ _ hk, Nat.mul_mod_mul_right, htwice, gt_iff_lt,
    Nat.mul_lt_mul_right hk, Nat.mul_left_inj hk.ne']

theorem roundDiv_le_roundDiv (h : n ≤ n') : roundDiv n d ≤ roundDiv n' d := by
  have hq : n / d ≤ n' / d := Nat.div_le_div_right h
  have hn : d * (n / d) + n % d = n := Nat.div_add_mod n d
  have hn' : d * (n' / d) + n' % d = n' := Nat.div_add_mod n' d
  unfold roundDiv
  dsimp only
  rcases hq.eq_or_lt with heq | hlt
  · rw [heq] at hn ⊢
    split <;> split <;> omega
  · split <;> split <;> omega

/-- **Rounding to natural numbers** keeps the order of quotients. -/
theorem roundDiv_mono (hd : 0 < d) (hd' : 0 < d') (h : n * d' ≤ n' * d) : roundDiv n d ≤ roundDiv n' d' := by
  rw [← roundDiv_mul_mul n d hd', ← roundDiv_mul_mul n' d' hd, Nat.mul_comm d d']
  exact roundDiv_le_roundDiv h

namespace Binary64

/-! ## The last bit -/

/-- **The logarithm of a quotient** is not more than one below it. -/
theorem lt_zpow_floorLog2 (n : Nat) (hd : 0 < d) : (n : ℚ) / d < 2 ^ (floorLog2 n d + 1) := by
  have hd' : (0 : ℚ) < d := Nat.cast_pos.mpr hd
  rcases floorLog2_cases n hd with ⟨-, heq⟩ | ⟨hlt, heq⟩
  · rw [heq, div_lt_iff₀ hd']
    calc (n : ℚ) < 2 ^ ((n.log2 : Int) + 1) := lt_zpow_log2 n
      _ = 2 ^ ((n.log2 : Int) - d.log2 + 1) * 2 ^ (d.log2 : Int) := by
        rw [← zpow_add₀ (by norm_num)]
        congr 1
        omega
      _ ≤ 2 ^ ((n.log2 : Int) - d.log2 + 1) * d := by
        gcongr
        exact zpow_log2_le hd.ne'
  · rwa [heq, sub_add_cancel]

theorem floorLog2_mono (hn : n ≠ 0) (hd : 0 < d) (hd' : 0 < d') (h : (n : ℚ) / d ≤ n' / d') :
    floorLog2 n d ≤ floorLog2 n' d' := by
  have hlt := ((zpow_floorLog2_le hn hd).trans h).trans_lt (lt_zpow_floorLog2 n' hd')
  exact Int.lt_add_one_iff.mp ((zpow_lt_zpow_iff_right₀ (by norm_num)).mp hlt)

theorem lastBit_mono (hn : n ≠ 0) (hd : 0 < d) (hd' : 0 < d') (h : (n : ℚ) / d ≤ n' / d') :
    lastBit n d ≤ lastBit n' d' := by
  have hlog := floorLog2_mono hn hd hd' h
  unfold lastBit
  omega

/-- No quotient has more than 53 bits, but for the one that is carried. -/
theorem scaled_le (n : Nat) (hd : 0 < d) : scaled n d ≤ 2 ^ 53 := by
  have hunit : (0 : ℚ) < 2 ^ lastBit n d := by positivity
  have hquotient : (n : ℚ) / d < 2 ^ 53 * 2 ^ lastBit n d := by
    refine (lt_zpow_floorLog2 n hd).trans_le ?_
    rw [← zpow_natCast, ← zpow_add₀ (by norm_num)]
    refine zpow_le_zpow_right₀ (by norm_num) ?_
    unfold lastBit
    omega
  have hnear := (abs_le.mp (abs_scaled_sub_le n hd)).2
  have hlt : (scaled n d : ℚ) * 2 ^ lastBit n d < (2 ^ 53 + 1) * 2 ^ lastBit n d := by linarith
  have hcount : (scaled n d : ℚ) < 2 ^ 53 + 1 := lt_of_mul_lt_mul_right hlt hunit.le
  exact Nat.lt_succ_iff.mp (by exact_mod_cast hcount)

/-- A quotient whose last bit is not the lowest has 53 bits. -/
theorem le_scaled (hn : n ≠ 0) (hd : 0 < d) (hbit : lowestExponent < lastBit n d) :
    2 ^ 52 ≤ scaled n d := by
  have hunit : (0 : ℚ) < 2 ^ lastBit n d := by positivity
  have hquotient : (2 : ℚ) ^ 52 * 2 ^ lastBit n d ≤ n / d := by
    refine le_trans ?_ (zpow_floorLog2_le hn hd)
    rw [← zpow_natCast, ← zpow_add₀ (by norm_num)]
    refine zpow_le_zpow_right₀ (by norm_num) ?_
    unfold lastBit at hbit ⊢
    omega
  have hnear := (abs_le.mp (abs_scaled_sub_le n hd)).1
  have hlt : ((2 : ℚ) ^ 52 - 1) * 2 ^ lastBit n d < scaled n d * 2 ^ lastBit n d := by linarith
  have hcount : (2 : ℚ) ^ 52 < scaled n d + 1 := by linarith [lt_of_mul_lt_mul_right hlt hunit.le]
  exact Nat.lt_succ_iff.mp (by exact_mod_cast hcount)

theorem scaled_mono (hd : 0 < d) (hd' : 0 < d') (hbit : lastBit n d = lastBit n' d')
    (h : n * d' ≤ n' * d) : scaled n d ≤ scaled n' d' := by
  have hpow (k : Nat) : 0 < twoTo k := Nat.two_pow_pos k
  unfold scaled
  rw [hbit]
  split
  · refine roundDiv_mono (Nat.mul_pos hd (hpow _)) (Nat.mul_pos hd' (hpow _)) ?_
    rw [← Nat.mul_assoc, ← Nat.mul_assoc]
    exact Nat.mul_le_mul_right _ h
  · refine roundDiv_mono hd hd' ?_
    rw [Nat.mul_right_comm, Nat.mul_right_comm n']
    exact Nat.mul_le_mul_right _ h

/-! ## Numbers -/

/-- **The multiple of the last bit** that is nearest a quotient. -/
def rounded (n d : Nat) : ℚ := scaled n d * 2 ^ lastBit n d

/-- **Rounding keeps the order.** -/
theorem rounded_mono (hn : n ≠ 0) (hd : 0 < d) (hd' : 0 < d') (h : (n : ℚ) / d ≤ n' / d') :
    rounded n d ≤ rounded n' d' := by
  have hcross : n * d' ≤ n' * d := by
    rw [div_le_div_iff₀ (Nat.cast_pos.mpr hd) (Nat.cast_pos.mpr hd')] at h
    exact_mod_cast h
  have hn' : n' ≠ 0 := by
    rintro rfl
    rw [Nat.zero_mul] at hcross
    exact Nat.mul_ne_zero hn hd'.ne' (Nat.le_zero.mp hcross)
  unfold rounded
  rcases (lastBit_mono hn hd hd' h).eq_or_lt with hbit | hbit
  · rw [hbit]
    have hcount := scaled_mono hd hd' hbit hcross
    gcongr
  · have hlowest : lowestExponent ≤ lastBit n d := le_max_right _ _
    have hfew : (scaled n d : ℚ) ≤ 2 ^ 53 := by exact_mod_cast scaled_le n hd
    have hmany : (2 : ℚ) ^ 52 ≤ scaled n' d' := by
      exact_mod_cast le_scaled hn' hd' (hlowest.trans_lt hbit)
    calc (scaled n d : ℚ) * 2 ^ lastBit n d ≤ 2 ^ 53 * 2 ^ lastBit n d := by gcongr
      _ = 2 ^ 52 * 2 ^ (lastBit n d + 1) := by
        rw [zpow_add_one₀ (by norm_num)]
        ring
      _ ≤ 2 ^ 52 * 2 ^ lastBit n' d' := by
        gcongr
        · norm_num
        · exact hbit
      _ ≤ scaled n' d' * 2 ^ lastBit n' d' := by gcongr

/-- **The number nearest a quotient** is the multiple of the last bit, unless that is beyond the range. -/
theorem ofRatio_range (negative : Bool) (hn : n ≠ 0) (hd : 0 < d) :
    (∃ m e, ofRatio negative n d = .finite negative m e ∧ (m : ℚ) * 2 ^ e = rounded n d ∧
      rounded n d < 2 ^ 1024) ∨
    ofRatio negative n d = .infinite negative ∧ 2 ^ 1024 ≤ rounded n d := by
  have hpow (j : Nat) (k : Int) : (2 : ℚ) ^ j * 2 ^ k = 2 ^ (j + k) := by
    rw [zpow_add₀ (by norm_num), zpow_natCast]
  have hrange : (2 : ℚ) ^ 1024 = 2 ^ (1024 : Int) := rfl
  have htwo : (1 : ℚ) < 2 := by norm_num
  rw [ofRatio_eq negative hn, rounded]
  by_cases hcarry : scaled n d = twoTo 53
  case pos =>
    have hscaled : ((twoTo 53 : Nat) : ℚ) = 2 ^ 53 := by norm_num [twoTo]
    rw [if_pos hcarry, hcarry, hscaled, hpow, hrange]
    by_cases hbit : 971 < lastBit n d + 1
    · exact .inr ⟨if_pos hbit, zpow_le_zpow_right₀ htwo.le (by omega)⟩
    · refine .inl ⟨_, _, if_neg hbit, ?_, zpow_lt_zpow_right₀ htwo (by omega)⟩
      have hhalf : ((twoTo 52 : Nat) : ℚ) = 2 ^ 52 := by norm_num [twoTo]
      rw [hhalf, hpow]
      congr 1
      omega
  case neg =>
    rw [if_neg hcarry]
    by_cases hbit : 971 < lastBit n d
    · have hmany : (2 : ℚ) ^ 52 ≤ scaled n d := by
        exact_mod_cast le_scaled hn hd (lt_trans (by decide) hbit)
      refine .inr ⟨if_pos hbit, ?_⟩
      calc (2 : ℚ) ^ 1024 ≤ 2 ^ 52 * 2 ^ lastBit n d := by
            rw [hpow, hrange]
            exact zpow_le_zpow_right₀ htwo.le (by omega)
        _ ≤ (scaled n d : ℚ) * 2 ^ lastBit n d := by gcongr
    · have hfew : (scaled n d : ℚ) < 2 ^ 53 := by
        exact_mod_cast lt_of_le_of_ne (scaled_le n hd) hcarry
      refine .inl ⟨_, _, if_neg hbit, rfl, ?_⟩
      calc (scaled n d : ℚ) * 2 ^ lastBit n d < 2 ^ 53 * 2 ^ lastBit n d := by gcongr
        _ ≤ 2 ^ 1024 := by
          rw [hpow, hrange]
          exact zpow_le_zpow_right₀ htwo.le (by omega)

/-! ## Limits -/

/-- The exact value of a number that is not negative. -/
theorem toRat?_finite (m : Nat) (e : Int) : (finite false m e).toRat? = some ((m : ℚ) * 2 ^ e) :=
  congrArg some (ratio_spec m e).2

/-- A positive value as a quotient. -/
theorem ofRat_of_pos {a : ℚ} (ha : 0 < a) :
    ofRat a = ofRatio false a.num.natAbs a.den ∧ a.num.natAbs ≠ 0 ∧ (a.num.natAbs : ℚ) / a.den = a := by
  have hnum : 0 < a.num := Rat.num_pos.mpr ha
  refine ⟨?_, Int.natAbs_ne_zero.mpr hnum.ne', ?_⟩
  · rw [ofRat, decide_eq_false (not_lt.mpr ha.le)]
  · rw [Nat.cast_natAbs, abs_of_pos hnum, Rat.num_div_den]

/-- A limit is below a number with a larger value. -/
theorem isBelow_finite {m m' : Nat} {e e' : Int} :
    (finite false m e).isBelow (finite false m' e') = true ↔ (m : ℚ) * 2 ^ e < m' * 2 ^ e' := by
  rw [isBelow, toRat?_finite, toRat?_finite]
  exact decide_eq_true_iff

/-- A positive limit that is below a number is no infinity. -/
theorem exists_of_isBelow {limit y : Binary64} (hlimit : limit.isAboveZero = true)
    (h : limit.isBelow y = true) : ∃ m e, limit = finite false m e := by
  rcases limit with ⟨_ | _, m, e⟩ | ⟨_ | _⟩ | _
  case finite.false => exact ⟨m, e, rfl⟩
  case infinite.false =>
    have hnone : (infinite false).isBelow y = false := by
      unfold isBelow
      cases y.toRat? <;> rfl
    cases hnone.symm.trans h
  case finite.true => cases hlimit
  case infinite.true => cases hlimit
  case undefined => cases hlimit

/-- Only a positive value has a number above a positive limit. -/
theorem pos_of_isBelow_ofRat {limit : Binary64} {a : ℚ} (hlimit : limit.isAboveZero = true)
    (h : limit.isBelow (ofRat a) = true) : 0 < a := by
  obtain ⟨m, e, rfl⟩ := exists_of_isBelow hlimit h
  by_contra hneg
  rcases (not_lt.mp hneg).eq_or_lt with rfl | hlt
  · have hzero : ofRat 0 = finite false 0 0 := rfl
    rw [hzero, isBelow_finite, Nat.cast_zero, zero_mul] at h
    exact absurd h (not_lt.mpr (by positivity))
  · have hnum : a.num.natAbs ≠ 0 := Int.natAbs_ne_zero.mpr (Rat.num_neg.mpr hlt).ne
    rw [ofRat, decide_eq_true hlt] at h
    rcases ofRatio_range true hnum a.den_pos with ⟨m', e', hfinite, -⟩ | ⟨hinfinite, -⟩
    · rw [hfinite, isBelow, toRat?_finite] at h
      have hvalue : (m : ℚ) * 2 ^ e < -(((ratio m' e').1 : ℚ) / (ratio m' e').2) := of_decide_eq_true h
      rw [(ratio_spec m' e').2] at hvalue
      have hle : (0 : ℚ) ≤ m * 2 ^ e := by positivity
      have hge : (0 : ℚ) ≤ m' * 2 ^ e' := by positivity
      linarith
    · rw [hinfinite] at h
      cases h

/-- **A positive limit** that is below the number of a value is below those of all larger values. -/
theorem isBelow_ofRat_mono {limit : Binary64} {a b : ℚ} (hlimit : limit.isAboveZero = true) (hle : a ≤ b)
    (h : limit.isBelow (ofRat a) = true) : limit.isBelow (ofRat b) = true := by
  have ha := pos_of_isBelow_ofRat hlimit h
  obtain ⟨m, e, rfl⟩ := exists_of_isBelow hlimit h
  obtain ⟨hofA, hnumA, hvalueA⟩ := ofRat_of_pos ha
  obtain ⟨hofB, hnumB, hvalueB⟩ := ofRat_of_pos (ha.trans_le hle)
  have hmono : rounded a.num.natAbs a.den ≤ rounded b.num.natAbs b.den :=
    rounded_mono hnumA a.den_pos b.den_pos (hvalueA.trans_le (hle.trans_eq hvalueB.symm))
  rw [hofA] at h
  rw [hofB]
  rcases ofRatio_range false hnumB b.den_pos with ⟨mB, eB, hfiniteB, hB, hinB⟩ | ⟨hinfiniteB, -⟩
  · rcases ofRatio_range false hnumA a.den_pos with ⟨mA, eA, hfiniteA, hA, -⟩ | ⟨-, hout⟩
    · rw [hfiniteA, isBelow_finite, hA] at h
      rw [hfiniteB, isBelow_finite, hB]
      exact h.trans_le hmono
    · exact absurd (hout.trans hmono) (not_le.mpr hinB)
  · rw [hinfiniteB]
    rfl

end Binary64

end AuditTrail.Number
