import AuditTrail.Time.Calendar

/-!
# Proofs/Time/Calendar — later days have later dates

    day  ↦  (year from March, day of that year)  ↦  (year, month, day)

Both steps keep the order of time.  Years count from March, so the leap day is the last of its year and the
first step has no cases; a year of an era begins `365 y + y / 4 - y / 100` days after the era.  `rank` writes
a date as one number, and the main result is `rank_ofDay_lt`.
-/

namespace AuditTrail.Time

/-! ## Years from March -/

/-- The year of an era that holds a day of the era. -/
def yearOfEra (day : Int) : Int := (day - day / 1460 + day / 36524 - day / 146096) / 365

/-- The days of an era before a year of it. -/
def daysBefore (year : Int) : Int := 365 * year + year / 4 - year / 100

/-- The quotients in the year of a day as bounds: `q` counts pieces of 1460 days and `c` full centuries,
of which there are three at most. -/
theorem yearOfEra_spec {day : Int} (h : 0 ≤ day) (h' : day < 146097) : ∃ q c,
    (1460 * q ≤ day ∧ day < 1460 * q + 1460) ∧
    (0 ≤ c ∧ c ≤ 3 ∧ 36524 * c ≤ day ∧ (day < 36524 * (c + 1) ∨ c = 3 ∧ day = 146096)) ∧
    365 * yearOfEra day ≤ day - q + c ∧ day - q + c < 365 * yearOfEra day + 365 := by
  refine ⟨day / 1460, day / 36524 - day / 146096, by omega, by omega, ?_⟩
  unfold yearOfEra
  omega

theorem yearOfEra_bounds {day : Int} (h : 0 ≤ day) (h' : day < 146097) :
    0 ≤ yearOfEra day ∧ yearOfEra day < 400 := by
  obtain ⟨q, c, hq, hc, hy⟩ := yearOfEra_spec h h'
  omega

/-- **A day is within the year that holds it.** -/
theorem daysBefore_yearOfEra {day : Int} (h : 0 ≤ day) (h' : day < 146097) :
    daysBefore (yearOfEra day) ≤ day ∧ day ≤ daysBefore (yearOfEra day) + 365 := by
  obtain ⟨q, c, hq, hc, hy⟩ := yearOfEra_spec h h'
  have hcentury : yearOfEra day / 100 = c := by omega
  have hleap : 4 * (yearOfEra day / 4) ≤ yearOfEra day ∧ yearOfEra day < 4 * (yearOfEra day / 4) + 4 := by
    omega
  unfold daysBefore
  rw [hcentury]
  generalize yearOfEra day / 4 = leaps at hleap
  omega

theorem yearOfEra_mono {day day' : Int} (h : 0 ≤ day) (hle : day ≤ day') (h' : day' < 146097) :
    yearOfEra day ≤ yearOfEra day' := by
  obtain ⟨q, c, hq, hc, hy⟩ := yearOfEra_spec h (Int.lt_of_le_of_lt hle h')
  obtain ⟨q', c', hq', hc', hy'⟩ := yearOfEra_spec (Int.le_trans h hle) h'
  have hcc : c ≤ c' := by omega
  omega

/-- The day of an era: an era begins on 1 March, and 1970 in one that began 719468 days before. -/
def dayOfEra (day : Int) : Int := (day + 719468) % 146097

theorem dayOfEra_bounds (day : Int) : 0 ≤ dayOfEra day ∧ dayOfEra day < 146097 := by
  unfold dayOfEra
  omega

/-- The year of a day when years begin in March. -/
def marchYear (day : Int) : Int := yearOfEra (dayOfEra day) + (day + 719468) / 146097 * 400

/-- The day within that year. -/
def marchDay (day : Int) : Int := dayOfEra day - daysBefore (yearOfEra (dayOfEra day))

theorem marchDay_bounds (day : Int) : 0 ≤ marchDay day ∧ marchDay day ≤ 365 := by
  obtain ⟨h, h'⟩ := dayOfEra_bounds day
  have hwithin := daysBefore_yearOfEra h h'
  unfold marchDay
  omega

/-- **Later days** are in a later year, or later in the same year. -/
theorem march_lt {day day' : Int} (hlt : day < day') :
    marchYear day < marchYear day' ∨ marchYear day = marchYear day' ∧ marchDay day < marchDay day' := by
  obtain ⟨h, hera⟩ := dayOfEra_bounds day
  obtain ⟨h', hera'⟩ := dayOfEra_bounds day'
  obtain ⟨hy, hy400⟩ := yearOfEra_bounds h hera
  obtain ⟨hy', hy400'⟩ := yearOfEra_bounds h' hera'
  rcases Int.lt_or_eq_of_le (Int.ediv_le_ediv (by decide) (by omega) :
    (day + 719468) / 146097 ≤ (day' + 719468) / 146097) with hlater | hsame
  · left
    unfold marchYear
    omega
  · have hday : dayOfEra day < dayOfEra day' := by
      unfold dayOfEra
      omega
    have hyear := yearOfEra_mono h (Int.le_of_lt hday) hera'
    unfold marchYear marchDay
    rw [hsame]
    rcases Int.lt_or_eq_of_le hyear with hyear | hyear
    · omega
    · rw [hyear]
      omega

/-! ## Months -/

/-- The month of a day of a year from March, March being 0. -/
def monthFromMarch (day : Int) : Int := (5 * day + 2) / 153

/-- The day of the month, the first being 1. -/
def dayOfMonth (day : Int) : Int := day - (153 * monthFromMarch day + 2) / 5 + 1

theorem month_bounds {day : Int} (h : 0 ≤ day) (h' : day ≤ 365) :
    0 ≤ monthFromMarch day ∧ monthFromMarch day ≤ 11 ∧ 1 ≤ dayOfMonth day ∧ dayOfMonth day ≤ 31 := by
  unfold dayOfMonth monthFromMarch
  omega

theorem month_lt {day day' : Int} (hlt : day < day') : monthFromMarch day < monthFromMarch day' ∨
    monthFromMarch day = monthFromMarch day' ∧ dayOfMonth day < dayOfMonth day' := by
  rcases Int.lt_or_eq_of_le (Int.ediv_le_ediv (by decide) (by omega) :
    (5 * day + 2) / 153 ≤ (5 * day' + 2) / 153) with hlater | hsame
  · exact .inl hlater
  · right
    unfold dayOfMonth monthFromMarch
    rw [hsame]
    exact ⟨rfl, by omega⟩

/-! ## Dates -/

/-- **A date as one number**, such as 20240229. -/
def Date.rank (date : Date) : Int := date.year * 10000 + date.month * 100 + date.day

theorem ofDay_eq (day : Int) : Date.ofDay day =
    let month := monthFromMarch (marchDay day)
    ⟨if month < 10 then marchYear day else marchYear day + 1,
      (if month < 10 then month + 3 else month - 9).toNat, (dayOfMonth (marchDay day)).toNat⟩ := by
  have hmonth := month_bounds (marchDay_bounds day).1 (marchDay_bounds day).2
  change Date.mk (if (if monthFromMarch (marchDay day) < 10 then monthFromMarch (marchDay day) + 3
      else monthFromMarch (marchDay day) - 9) ≤ 2 then marchYear day + 1 else marchYear day) _ _ = _
  dsimp only
  congr 1
  split <;> split <;> omega

/-- The month and the day of a date. -/
theorem ofDay_bounds (day : Int) : 1 ≤ (Date.ofDay day).month ∧ (Date.ofDay day).month ≤ 12 ∧
    1 ≤ (Date.ofDay day).day ∧ (Date.ofDay day).day ≤ 31 := by
  obtain ⟨h, h'⟩ := marchDay_bounds day
  have hmonth := month_bounds h h'
  rw [ofDay_eq]
  dsimp only
  omega

/-- **Later days have later dates.** -/
theorem rank_ofDay_lt {day day' : Int} (hlt : day < day') :
    (Date.ofDay day).rank < (Date.ofDay day').rank := by
  obtain ⟨h, h'⟩ := marchDay_bounds day
  obtain ⟨h₁, h₁'⟩ := marchDay_bounds day'
  have hmonth := month_bounds h h'
  have hmonth' := month_bounds h₁ h₁'
  have hlater : marchYear day < marchYear day' ∨ marchYear day = marchYear day' ∧
      (monthFromMarch (marchDay day) < monthFromMarch (marchDay day') ∨
        monthFromMarch (marchDay day) = monthFromMarch (marchDay day') ∧
          dayOfMonth (marchDay day) < dayOfMonth (marchDay day')) :=
    (march_lt hlt).imp_right fun h => ⟨h.1, month_lt h.2⟩
  unfold Date.rank
  rw [ofDay_eq, ofDay_eq]
  dsimp only
  split <;> split <;> omega

end AuditTrail.Time
