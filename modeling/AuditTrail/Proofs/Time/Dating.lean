import AuditTrail.Proofs.Number.Nearest
import AuditTrail.Proofs.Outcome
import AuditTrail.Proofs.Time.Calendar
import AuditTrail.Time.Format

/-!
# Proofs/Time/Dating — which timestamps have a date

    millis ──/ 1000 in floating point──▸ seconds + micros ──zone──▸ wall clock ──▸ text
                                              ‖
                                         millis / 1000

Dividing by 1000 in floating point is less than a milliseconds' distance off as far as the calendar goes, and
exact for whole seconds, so the seconds are those of the division of integers (`ofMillis_cases`).  A timestamp
is written in a zone when these seconds and those of the wall clock are in the years 1 to 9999
(`apply_eq_ok_iff`).
-/

namespace AuditTrail.Time

open AuditTrail.Number

/-- **The seconds of the years 1 to 9999.** -/
def InCalendar (seconds : Int) : Prop := -62135596800 ≤ seconds ∧ seconds ≤ 253402300799

instance (seconds : Int) : Decidable (InCalendar seconds) := inferInstanceAs (Decidable (_ ∧ _))

theorem Instant.inRange_iff {instant : Instant} : instant.inRange = true ↔ InCalendar instant.seconds := by
  rw [inRange, Bool.and_eq_true, decide_eq_true_eq, decide_eq_true_eq, InCalendar, firstDay, lastDay,
    secondsPerDay]
  omega

/-- The years of the calendar are small numbers. -/
theorem year_ofDay_bounds {day : Int} (h : firstDay ≤ day) (h' : day ≤ lastDay) :
    0 ≤ (Date.ofDay day).year ∧ (Date.ofDay day).year ≤ 10400 := by
  obtain ⟨hera, hera'⟩ := dayOfEra_bounds day
  obtain ⟨hyear, hyear'⟩ := yearOfEra_bounds hera hera'
  unfold firstDay at h
  unfold lastDay at h'
  rw [ofDay_eq]
  dsimp only
  unfold marchYear
  split <;> omega

/-! ## Seconds and microseconds -/

/-- **A fraction that is not near a whole second** has microseconds, and less than a million of them. -/
theorem fractionMicros_bounds {a b : Nat} (hb : 0 < b) (h : (1 / 2000 : ℚ) ≤ (a % b : Nat) / b)
    (h' : ((a % b : Nat) / b : ℚ) ≤ 1999 / 2000) : 0 < fractionMicros a b ∧ fractionMicros a b < 1000000 := by
  have hmillion : (((a % b) * 1000000 : Nat) : ℚ) / b = (a % b : Nat) / b * 1000000 := by
    rw [Nat.cast_mul, mul_div_right_comm]
    norm_num
  obtain ⟨m, e, hfinite, hnear⟩ := Binary64.exists_ofRatio_near (n := a % b * 1000000) (k := 20) false hb
    (by norm_num) (by norm_num) (by rw [hmillion]; norm_num; linarith)
  obtain ⟨hround, hround'⟩ := abs_le.mp (Binary64.abs_toNat_sub_le false m e)
  rw [hmillion] at hnear
  norm_num at hnear
  obtain ⟨hnear, hnear'⟩ := abs_le.mp hnear
  rw [fractionMicros, hfinite]
  constructor
  · have hpos : (0 : ℚ) < (Binary64.finite false m e).toNat := by linarith
    exact_mod_cast hpos
  · have hlt : ((Binary64.finite false m e).toNat : ℚ) < 1000000 := by linarith
    exact_mod_cast hlt

/-- No fraction, no microseconds. -/
theorem fractionMicros_eq_zero {a b : Nat} (h : a % b = 0) : fractionMicros a b = 0 := by
  rw [fractionMicros, h, zero_mul, Binary64.ofRatio_zero]
  rfl

section Split

variable {negative : Bool} {m : Nat} {e : Int}

/-- **The parts of a number of seconds** from zero on. -/
theorem splitSeconds_false (m : Nat) (e : Int) : splitSeconds false m e =
    let whole : Int := ((Binary64.ratio m e).1 / (Binary64.ratio m e).2 : Nat)
    let micros : Int := fractionMicros (Binary64.ratio m e).1 (Binary64.ratio m e).2
    if 1000000 ≤ micros then (whole + 1, micros - 1000000) else (whole, micros) := by
  simp only [splitSeconds, Int.ofNat_eq_natCast, Bool.false_eq_true, if_false, one_mul]
  exact if_congr Iff.rfl rfl (if_neg (by omega))

/-- **The parts of a number of seconds** below zero: the whole seconds go down by one for a fraction. -/
theorem splitSeconds_true (m : Nat) (e : Int) : splitSeconds true m e =
    let whole : Int := ((Binary64.ratio m e).1 / (Binary64.ratio m e).2 : Nat)
    let micros : Int := fractionMicros (Binary64.ratio m e).1 (Binary64.ratio m e).2
    if 0 < micros then (-whole - 1, -micros + 1000000) else (-whole, -micros) := by
  simp only [splitSeconds, Int.ofNat_eq_natCast, if_true, neg_one_mul]
  rw [if_neg (by omega)]
  exact if_congr (by omega) rfl rfl

/-- **The seconds of a number near a number of milliseconds** are the quotient by a thousand, rounded
down. -/
theorem splitSeconds_fst {q r : Nat} (hr : r < 1000) (hwhole : r = 0 → (m : ℚ) * 2 ^ e = q)
    (hnear : |(m : ℚ) * 2 ^ e - (q + r / 1000)| ≤ 1 / 32768) :
    (splitSeconds negative m e).1 = (if negative then -(1000 * q + r : Int) else 1000 * q + r) / 1000 := by
  obtain ⟨hpos, -⟩ := Binary64.ratio_spec m e
  rcases Nat.eq_zero_or_pos r with rfl | hr'
  · have hvalue := hwhole rfl
    obtain ⟨hdiv, hfraction⟩ := Binary64.ratio_div_eq (m := m) (q := q) (e := e) hvalue.ge (by linarith)
    rw [hvalue, sub_self, div_eq_zero_iff, Nat.cast_eq_zero, Nat.cast_eq_zero,
      or_iff_left hpos.ne'] at hfraction
    cases negative with
    | true =>
      simp only [splitSeconds_true, hdiv, fractionMicros_eq_zero hfraction, Nat.cast_zero, lt_irrefl, if_true,
        if_false]
      omega
    | false =>
      simp only [splitSeconds_false, hdiv, fractionMicros_eq_zero hfraction, Bool.false_eq_true, if_false,
        Nat.cast_zero, show ¬ (1000000 : Int) ≤ 0 by decide]
      omega
  · have hr₁ : (1 : ℚ) ≤ r := mod_cast hr'
    have hr₂ : (r : ℚ) ≤ 999 := mod_cast (by omega : r ≤ 999)
    obtain ⟨hlow, hhigh⟩ := abs_le.mp hnear
    obtain ⟨hdiv, hfraction⟩ :=
      Binary64.ratio_div_eq (m := m) (q := q) (e := e) (by linarith) (by linarith)
    obtain ⟨hmicros, hmicros'⟩ :=
      fractionMicros_bounds hpos (by rw [hfraction]; linarith) (by rw [hfraction]; linarith)
    cases negative with
    | true =>
      have hsome : (0 : Int) < fractionMicros (Binary64.ratio m e).1 (Binary64.ratio m e).2 := mod_cast hmicros
      simp only [splitSeconds_true, hdiv, hsome, if_true]
      omega
    | false =>
      have hfew : ¬ (1000000 : Int) ≤ fractionMicros (Binary64.ratio m e).1 (Binary64.ratio m e).2 := by omega
      simp only [splitSeconds_false, hdiv, hfew, Bool.false_eq_true, if_false]
      omega

/-- A number of seconds beyond the calendar has seconds beyond it. -/
theorem not_inCalendar_splitSeconds (hlarge : (2 : ℚ) ^ (38 : Int) ≤ m * 2 ^ e) :
    ¬ InCalendar (splitSeconds negative m e).1 := by
  obtain ⟨hpos, hvalue⟩ := Binary64.ratio_spec m e
  have hwhole : 2 ^ 38 ≤ (Binary64.ratio m e).1 / (Binary64.ratio m e).2 := by
    rw [Nat.le_div_iff_mul_le hpos]
    rw [← hvalue, le_div_iff₀ (Nat.cast_pos.mpr hpos)] at hlarge
    exact_mod_cast hlarge
  rw [InCalendar]
  cases negative with
  | true =>
    simp only [splitSeconds_true]
    split <;> dsimp only <;> omega
  | false =>
    simp only [splitSeconds_false]
    split <;> dsimp only <;> omega

end Split

/-! ## The instant of a timestamp -/

/-- A number of seconds is an instant when the calendar covers it. -/
theorem ofMillis_of_finite {millis : Int} {negative : Bool} {m : Nat} {e : Int}
    (h : Binary64.ofRatio (millis < 0) millis.natAbs 1000 = .finite negative m e) :
    InCalendar (splitSeconds negative m e).1 ∧ Instant.ofMillis millis
        = .ok ⟨(splitSeconds negative m e).1, (splitSeconds negative m e).2.toNat⟩ ∨
    ¬ InCalendar (splitSeconds negative m e).1 ∧ ∃ error, Instant.ofMillis millis = .error error := by
  simp only [Instant.ofMillis, h]
  generalize splitSeconds negative m e = parts
  obtain ⟨seconds, micros⟩ := parts
  dsimp only
  have h63 : ((twoTo 63 : Nat) : Int) = 9223372036854775808 := by decide
  have h31 : ((twoTo 31 : Nat) : Int) = 2147483648 := by decide
  rw [h63, h31]
  by_cases hcovered : InCalendar seconds
  case pos =>
    have hrange : Instant.inRange ⟨seconds, micros.toNat⟩ = true := Instant.inRange_iff.mpr hcovered
    obtain ⟨hfirst, hlast⟩ := Bool.and_eq_true_iff.mp hrange
    obtain ⟨hyear, hyear'⟩ := year_ofDay_bounds (of_decide_eq_true hfirst) (of_decide_eq_true hlast)
    rw [InCalendar] at hcovered
    refine .inl ⟨hcovered, ?_⟩
    rw [if_neg (by omega), Instant.date, if_neg (by omega), if_pos hrange]
  case neg =>
    have hrange : ¬ Instant.inRange ⟨seconds, micros.toNat⟩ = true := mt Instant.inRange_iff.mp hcovered
    refine .inr ⟨hcovered, ?_⟩
    rw [if_neg hrange]
    split
    · exact ⟨_, rfl⟩
    · split
      · exact ⟨_, rfl⟩
      · exact ⟨_, rfl⟩

/-- A number of milliseconds from its whole seconds and the rest. -/
theorem signed_eq (millis : Int) : (if decide (millis < 0) = true then
      -(1000 * (millis.natAbs / 1000 : Nat) + (millis.natAbs % 1000 : Nat) : Int)
      else 1000 * (millis.natAbs / 1000 : Nat) + (millis.natAbs % 1000 : Nat)) = millis := by
  by_cases hneg : millis < 0
  · rw [if_pos (decide_eq_true hneg)]
    omega
  · rw [if_neg (by simpa using hneg)]
    omega

/-- The seconds of a timestamp that is not far beyond the calendar. -/
theorem exists_splitSeconds_eq {millis : Int} (hsmall : millis.natAbs < 2 ^ 39 * 1000) :
    ∃ m e, Binary64.ofRatio (millis < 0) millis.natAbs 1000 = .finite (millis < 0) m e ∧
      (splitSeconds (millis < 0) m e).1 = millis / 1000 := by
  have hlt : ((millis.natAbs : Nat) : ℚ) / 1000 < 2 ^ (39 : Int) := by
    rw [div_lt_iff₀ (by norm_num)]
    exact_mod_cast hsmall
  have hparts : ((millis.natAbs : Nat) : ℚ)
      = 1000 * (millis.natAbs / 1000 : Nat) + (millis.natAbs % 1000 : Nat) := by
    exact_mod_cast (Nat.div_add_mod millis.natAbs 1000).symm
  obtain ⟨m, e, hfinite, hnear⟩ := Binary64.exists_ofRatio_near (d := 1000) (k := 39) (millis < 0)
    (by decide) (by decide) (by decide) hlt
  refine ⟨m, e, hfinite, ?_⟩
  rw [splitSeconds_fst (Nat.mod_lt _ (by decide)) ?_ ?_, signed_eq]
  · intro hzero
    obtain ⟨m', e', hfinite', hvalue⟩ := Binary64.exists_ofRatio_exact (d := 1000) (millis < 0)
      (millis.natAbs / 1000) (by decide) (by omega)
    rw [show millis.natAbs / 1000 * 1000 = millis.natAbs by omega, hfinite] at hfinite'
    obtain ⟨-, rfl, rfl⟩ := Binary64.finite.inj hfinite'
    exact hvalue
  · have hsum : (((millis.natAbs / 1000 : Nat) : ℚ) + ((millis.natAbs % 1000 : Nat) : ℚ) / 1000)
        = (millis.natAbs : Nat) / 1000 := by
      rw [hparts]
      ring
    rw [hsum]
    refine hnear.trans (le_of_eq ?_)
    norm_num

/-- **Which timestamps have an instant**: those whose seconds the calendar covers, and these are the seconds. -/
theorem ofMillis_cases (millis : Int) :
    InCalendar (millis / 1000) ∧ (∃ micros, Instant.ofMillis millis = .ok ⟨millis / 1000, micros⟩) ∨
    ¬ InCalendar (millis / 1000) ∧ ∃ error, Instant.ofMillis millis = .error error := by
  by_cases hsmall : millis.natAbs < 2 ^ 39 * 1000
  case pos =>
    obtain ⟨m, e, hfinite, hseconds⟩ := exists_splitSeconds_eq hsmall
    have hcases := ofMillis_of_finite hfinite
    rw [hseconds] at hcases
    exact hcases.imp_left (And.imp_right fun h => ⟨_, h⟩)
  case neg =>
    have hbeyond : ¬ InCalendar (millis / 1000) := by
      unfold InCalendar
      omega
    refine .inr ⟨hbeyond, ?_⟩
    rcases Binary64.ofRatio_cases (millis < 0) (show millis.natAbs ≠ 0 by omega) 1000 with
      ⟨m, e, hfinite, -⟩ | ⟨-, hinfinite⟩
    · have hle : (2 : ℚ) ^ (39 : Int) ≤ (millis.natAbs : Nat) / (1000 : Nat) := by
        rw [le_div_iff₀ (by norm_num)]
        exact_mod_cast Nat.le_of_not_lt hsmall
      have hlarge := Binary64.zpow_le_of_ofRatio_eq (by decide) (by decide) hle hfinite
      rcases ofMillis_of_finite hfinite with ⟨hcovered, -⟩ | ⟨-, herror⟩
      · exact absurd hcovered (not_inCalendar_splitSeconds hlarge)
      · exact herror
    · exact ⟨.quotientTooLarge, by simp only [Instant.ofMillis, hinfinite]⟩

/-! ## The text of a timestamp -/

/-- **The zone dates the timestamp**: the calendar covers its seconds, and those of the wall clock. -/
def Zone.Dates (zone : Zone) (millis : Int) : Prop :=
  InCalendar (millis / 1000) ∧ InCalendar (millis / 1000 + (zone.offsetAt (millis / 1000)).seconds)

instance (zone : Zone) (millis : Int) : Decidable (zone.Dates millis) := inferInstanceAs (Decidable (_ ∧ _))

/-- A wall clock stays in the calendar. -/
theorem LocalTime.exists_of_eq_ok_iff (zone : Zone) (instant : Instant) :
    (∃ t, LocalTime.of zone instant = .ok t) ↔
      InCalendar (instant.seconds + (zone.offsetAt instant.seconds).seconds) := by
  have hmoved : Instant.inRange ⟨instant.seconds + (zone.offsetAt instant.seconds).seconds, instant.micros⟩
      = true ↔ InCalendar (instant.seconds + (zone.offsetAt instant.seconds).seconds) :=
    Instant.inRange_iff
  rw [← hmoved, LocalTime.of, Instant.shift]
  split
  case isTrue h => exact iff_of_true ⟨_, rfl⟩ h
  case isFalse h => exact iff_of_false nofun h

/-- **Which timestamps have a text** in a time format and a zone. -/
theorem apply_eq_ok_iff {format : TimeFormat} {zone : Zone} {millis : Int} :
    (∃ text, format.apply zone millis = .ok text) ↔ zone.Dates millis := by
  rw [TimeFormat.apply, Zone.Dates]
  rcases ofMillis_cases millis with ⟨hcovered, micros, hinstant⟩ | ⟨hbeyond, error, herror⟩
  · rw [hinstant, and_iff_right hcovered]
    rw [← LocalTime.exists_of_eq_ok_iff zone ⟨millis / 1000, micros⟩]
    constructor
    · rintro ⟨text, h⟩
      obtain ⟨instant, hsame, h⟩ := bind_eq_ok_iff.mp h
      obtain rfl := Except.ok.inj hsame
      obtain ⟨t, ht, -⟩ := bind_eq_ok_iff.mp h
      exact ⟨t, ht⟩
    · rintro ⟨t, ht⟩
      exact ⟨_, bind_eq_ok_iff.mpr ⟨_, rfl, bind_eq_ok_iff.mpr ⟨t, ht, rfl⟩⟩⟩
  · rw [herror]
    exact iff_of_false (fun ⟨_, h⟩ => nomatch h) fun h => hbeyond h.1

end AuditTrail.Time
