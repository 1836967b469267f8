import AuditTrail.Journal.Record
import AuditTrail.Proofs.Number.Digits
import AuditTrail.Proofs.Time.Calendar

/-!
# Proofs/Journal/Stamp — stamps are in the order of time

    20240131_235959_999999  <  20240201_000000_000000

Where years have four digits all the stamps have one width, so they are compared as the numbers in them
(`stampText_eq`), the date first, and these are in the order of time (`stampText_lt`).
-/

namespace AuditTrail.Journal

open AuditTrail.Number AuditTrail.Time

variable {m m' : Moment}

/-- **The year of a moment has four digits.** -/
def HasLongYear (m : Moment) : Prop := 1000 ≤ (dateOf m).year ∧ (dateOf m).year ≤ 9999

instance (m : Moment) : Decidable (HasLongYear m) := inferInstanceAs (Decidable (_ ∧ _))

/-- The time of day as one number, such as 235959. -/
def timeRank (m : Moment) : Nat :=
  (secondOfDay m / 3600 * 100 + secondOfDay m / 60 % 60) * 100 + secondOfDay m % 60

theorem secondOfDay_lt (m : Moment) : secondOfDay m < 86400 := by
  unfold secondOfDay
  omega

theorem microsOf_lt (m : Moment) : microsOf m < 10 ^ 6 := by
  unfold microsOf
  omega

theorem padded_append {a b width : Nat} (v : Nat) (hb : b < 10 ^ (width + 1)) :
    lastDigits v a ++ padded (width + 1) b = lastDigits (v + (width + 1)) (a * 10 ^ (width + 1) + b) := by
  rw [padded_eq_lastDigits hb, lastDigits_append v (width + 1) a hb]

theorem integerText_eq_lastDigits {year : Int} (h : 1000 ≤ year) (h' : year ≤ 9999) :
    integerText year = lastDigits 4 year.toNat := by
  have hlong : (Nat.toDigits 10 year.natAbs).length ≤ 4 := by
    rw [Nat.length_toDigits_le_iff (by decide) (by decide)]
    omega
  have hshort : ¬ (Nat.toDigits 10 year.natAbs).length ≤ 3 := by
    rw [Nat.length_toDigits_le_iff (by decide) (by decide)]
    omega
  have hpadded : padded 4 year.natAbs = digitsOf year.natAbs := by
    unfold padded digitsOf
    dsimp only
    rw [Nat.sub_eq_zero_of_le (by omega)]
    rfl
  have hnat : year.natAbs = year.toNat := by omega
  rw [integerText, if_neg (by omega), ← hpadded, hnat, padded_eq_lastDigits (by omega)]

theorem dateText_eq (h : HasLongYear m) :
    integerText (dateOf m).year ++ padded 2 (dateOf m).month ++ padded 2 (dateOf m).day
      = lastDigits 8 (dateOf m).rank.toNat := by
  obtain ⟨-, hmonth, -, hday⟩ := ofDay_bounds (m / 86400000000)
  have hrank : (dateOf m).rank.toNat
      = ((dateOf m).year.toNat * 10 ^ 2 + (dateOf m).month) * 10 ^ 2 + (dateOf m).day := by
    have hyear := h.1
    unfold Date.rank
    omega
  have hmonth : (dateOf m).month < 10 ^ 2 := by
    unfold dateOf
    omega
  have hday : (dateOf m).day < 10 ^ 2 := by
    unfold dateOf
    omega
  rw [integerText_eq_lastDigits h.1 h.2, padded_append 4 hmonth, padded_append 6 hday, hrank]

theorem timeText_eq (m : Moment) :
    padded 2 (secondOfDay m / 3600) ++ padded 2 (secondOfDay m / 60 % 60) ++ padded 2 (secondOfDay m % 60)
      = lastDigits 6 (timeRank m) := by
  have hsecond := secondOfDay_lt m
  rw [padded_eq_lastDigits (by omega), padded_append 2 (by omega), padded_append 4 (by omega)]
  rfl

/-- **A stamp** is three numbers of a fixed width. -/
theorem stampText_eq (h : HasLongYear m) : stampText m = lastDigits 8 (dateOf m).rank.toNat ++
    '_' :: (lastDigits 6 (timeRank m) ++ '_' :: lastDigits 6 (microsOf m)) := by
  rw [← dateText_eq h, ← timeText_eq m, ← padded_eq_lastDigits (microsOf_lt m)]
  unfold stampText
  simp only [List.append_assoc, List.cons_append]

theorem length_stampText (h : HasLongYear m) : (stampText m).length = 22 := by
  rw [stampText_eq h]
  simp

/-! ## The order of time -/

theorem second_lt {m m' : Int} (hlt : m < m') (hday : m / 86400000000 = m' / 86400000000) :
    secondOfDay m < secondOfDay m' ∨ secondOfDay m = secondOfDay m' ∧ microsOf m < microsOf m' := by
  unfold secondOfDay microsOf
  omega

theorem timeRank_lt (hlt : secondOfDay m < secondOfDay m') : timeRank m < timeRank m' := by
  have hhours (second : Nat) : second / 3600 = second / 60 / 60 := (Nat.div_div_eq_div_mul second 60 60).symm
  unfold timeRank
  rw [hhours, hhours]
  omega

/-- A later moment is on a later day, or later on the same day. -/
theorem moment_lt_cases (hlt : m < m') : (dateOf m).rank < (dateOf m').rank ∨
    dateOf m = dateOf m' ∧ (timeRank m < timeRank m' ∨
      timeRank m = timeRank m' ∧ microsOf m < microsOf m') := by
  rcases Int.lt_or_eq_of_le (Int.ediv_le_ediv (by decide) (Int.le_of_lt hlt) :
    m / 86400000000 ≤ m' / 86400000000) with hday | hday
  · exact .inl (rank_ofDay_lt hday)
  · refine .inr ⟨congrArg Date.ofDay hday, ?_⟩
    rcases second_lt hlt hday with hsecond | ⟨hsecond, hmicros⟩
    · exact .inl (timeRank_lt hsecond)
    · refine .inr ⟨?_, hmicros⟩
      unfold timeRank
      rw [hsecond]

theorem rank_lt (h : HasLongYear m) : (dateOf m).rank.toNat < 10 ^ 8 := by
  obtain ⟨-, hmonth, -, hday⟩ := ofDay_bounds (m / 86400000000)
  have hyear := h.2
  unfold dateOf at hyear ⊢
  unfold Date.rank
  omega

theorem timeRank_lt_pow (m : Moment) : timeRank m < 10 ^ 6 := by
  have hsecond := secondOfDay_lt m
  unfold timeRank
  omega

/-- **A later moment has a later stamp.** -/
theorem stampText_lt (h : HasLongYear m) (h' : HasLongYear m') (hlt : m < m') :
    stampText m < stampText m' := by
  have hrank : 0 ≤ (dateOf m).rank := by
    have hyear := h.1
    unfold Date.rank
    omega
  rw [stampText_eq h, stampText_eq h']
  rcases moment_lt_cases hlt with hdate | ⟨hdate, htime⟩
  · have hdigits := lastDigits_lt ((Int.toNat_lt_toNat (by omega)).mpr hdate) (rank_lt h')
    exact append_lt_append (by rw [length_lastDigits, length_lastDigits]) hdigits
  rw [hdate]
  refine List.append_left_lt (List.cons_lt_cons_iff.mpr (.inr ⟨rfl, ?_⟩))
  rcases htime with htime | ⟨htime, hmicros⟩
  · have hdigits := lastDigits_lt htime (timeRank_lt_pow m')
    exact append_lt_append (by rw [length_lastDigits, length_lastDigits]) hdigits
  rw [htime]
  refine List.append_left_lt (List.cons_lt_cons_iff.mpr (.inr ⟨rfl, ?_⟩))
  exact lastDigits_lt hmicros (microsOf_lt m')

/-! ## A clock -/

/-- A clock that goes on by half a second with every reading, from the start of 2024. -/
def halfSeconds (reading : Nat) : Moment := 1704067200000000 + 500000 * reading

end AuditTrail.Journal
