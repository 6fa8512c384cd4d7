import SignalDesk.Time.Calendar

namespace SignalDesk.Calendar

theorem daysBeforeYear_succ (y : Nat) :
    daysBeforeYear (y + 1) = y * 365 + y / 4 - y / 100 + y / 400 := rfl

/-- How many days a year has. -/
def daysInYear (year : Nat) : Nat := if isLeap year then 366 else 365

theorem isLeap_iff (year : Nat) :
    isLeap year = true ↔ year % 4 = 0 ∧ (year % 100 ≠ 0 ∨ year % 400 = 0) := by
  simp [isLeap]

/-- One more year adds its 365 days, and one more if it is a leap year. -/
theorem daysBeforeYear_add {year : Nat} (h : 0 < year) :
    daysBeforeYear (year + 1) = daysBeforeYear year + daysInYear year := by
  obtain ⟨y, rfl⟩ : ∃ y, year = y + 1 := ⟨year - 1, by omega⟩
  have fours : (y + 1) / 4 = y / 4 + if (y + 1) % 4 = 0 then 1 else 0 := by split <;> omega
  have centuries : (y + 1) / 100 = y / 100 + if (y + 1) % 100 = 0 then 1 else 0 := by
    split <;> omega
  have cycles : (y + 1) / 400 = y / 400 + if (y + 1) % 400 = 0 then 1 else 0 := by split <;> omega
  have fewer : y / 100 ≤ y / 4 := Nat.div_le_div_left (by decide) (by decide)
  rw [daysBeforeYear_succ, daysBeforeYear_succ, daysInYear, fours, centuries, cycles]
  by_cases cycle : (y + 1) % 400 = 0
  · have century : (y + 1) % 100 = 0 := by omega
    have four : (y + 1) % 4 = 0 := by omega
    rw [if_pos cycle, if_pos century, if_pos four,
      if_pos ((isLeap_iff _).mpr ⟨four, .inr cycle⟩)]
    omega
  · rw [if_neg cycle]
    by_cases century : (y + 1) % 100 = 0
    · have four : (y + 1) % 4 = 0 := by omega
      have common : ¬isLeap (y + 1) = true := fun leap =>
        ((isLeap_iff _).mp leap).2.elim (· century) cycle
      rw [if_pos century, if_pos four, if_neg common]
      omega
    · rw [if_neg century]
      by_cases four : (y + 1) % 4 = 0
      · rw [if_pos four, if_pos ((isLeap_iff _).mpr ⟨four, .inl century⟩)]
        omega
      · rw [if_neg four, if_neg fun leap => four ((isLeap_iff _).mp leap).1]
        omega

theorem daysBeforeYear_mono {a b : Nat} (h : a ≤ b) : daysBeforeYear a ≤ daysBeforeYear b := by
  induction h with
  | refl => exact Nat.le_refl _
  | @step b _ ih =>
    refine Nat.le_trans ih ?_
    rcases Nat.eq_zero_or_pos b with rfl | positive
    · exact Nat.le_refl 0
    · rw [daysBeforeYear_add positive]
      exact Nat.le_add_right _ _

/-- The year by the mean length of years is the right one, or the one before it. -/
theorem guess_bounds {n y : Nat} (h : 0 < n) (guess : y = (n - 1) * 400 / 146097) :
    daysBeforeYear (y + 1) < n ∧ n ≤ daysBeforeYear (y + 3) := by
  rw [daysBeforeYear_succ, daysBeforeYear_succ]
  omega

/-- A day falls in its year. -/
theorem yearOf_bounds {n : Nat} (h : 0 < n) :
    0 < yearOf n ∧ daysBeforeYear (yearOf n) < n ∧ n ≤ daysBeforeYear (yearOf n + 1) := by
  obtain ⟨low, high⟩ := guess_bounds h rfl
  simp only [yearOf]
  split
  · rename_i next
    exact ⟨Nat.succ_pos _, next, high⟩
  · rename_i last
    exact ⟨Nat.succ_pos _, low, Nat.not_lt.mp last⟩

theorem yearOf_le {n year : Nat} (h : 0 < n) (before : n ≤ daysBeforeYear (year + 1)) :
    yearOf n ≤ year := by
  obtain ⟨-, low, -⟩ := yearOf_bounds h
  apply Nat.le_of_not_lt
  intro beyond
  have later := daysBeforeYear_mono (show year + 1 ≤ yearOf n from beyond)
  omega

/-- A year as long as any leap year, or as any other one. -/
def likeYear (year : Nat) : Nat := if isLeap year then 4 else 1

theorem isLeap_likeYear (year : Nat) : isLeap (likeYear year) = isLeap year := by
  simp only [likeYear]
  split
  · rename_i leap
    exact leap.symm
  · rename_i common
    exact (Bool.eq_false_iff.mpr common).symm

theorem daysInMonth_likeYear (year month : Nat) :
    daysInMonth (likeYear year) month = daysInMonth year month := by
  simp only [daysInMonth, isLeap_likeYear]

theorem daysBeforeMonth_likeYear (year month : Nat) :
    daysBeforeMonth (likeYear year) month = daysBeforeMonth year month := by
  induction month using daysBeforeMonth.induct with
  | case1 => rfl
  | case2 => rfl
  | case3 month _ ih => simp only [daysBeforeMonth, ih, daysInMonth_likeYear]

theorem monthDay_likeYear (year n : Nat) : monthDay (likeYear year) n = monthDay year n := by
  simp only [monthDay, daysBeforeMonth_likeYear]

/-- Whether month and day are in a year. -/
def HasDate (year : Nat) (date : Nat × Nat) : Prop :=
  1 ≤ date.1 ∧ date.1 ≤ 12 ∧ 1 ≤ date.2 ∧ date.2 ≤ daysInMonth year date.1

instance (year : Nat) (date : Nat × Nat) : Decidable (HasDate year date) :=
  inferInstanceAs (Decidable (_ ∧ _))

/-- The days of a year without 29th of February, and of one with it. -/
theorem monthDay_table :
    (∀ n < 365, HasDate 1 (monthDay 1 (n + 1))) ∧ ∀ n < 366, HasDate 4 (monthDay 4 (n + 1)) := by
  decide +kernel

theorem monthDay_hasDate {year n : Nat} (positive : 0 < n) (within : n ≤ daysInYear year) :
    HasDate year (monthDay year n) := by
  obtain ⟨common, leap⟩ := monthDay_table
  obtain ⟨k, rfl⟩ : ∃ k, n = k + 1 := ⟨n - 1, by omega⟩
  rw [HasDate, ← daysInMonth_likeYear, ← monthDay_likeYear]
  simp only [likeYear]
  simp only [daysInYear] at within
  split
  · rename_i isLeap
    rw [if_pos isLeap] at within
    exact leap k within
  · rename_i isCommon
    rw [if_neg isCommon] at within
    exact common k within

/-- **Dates.** The date of a day number up to the end of a year is one of the calendar. -/
theorem ofDayNumber_valid {n last : Nat} (h : 0 < n) (before : n ≤ daysBeforeYear (last + 1)) :
    ∃ year month day, ofDayNumber n = (year, month, day) ∧ 1 ≤ year ∧ year ≤ last ∧
      HasDate year (month, day) := by
  obtain ⟨positive, low, high⟩ := yearOf_bounds h
  rw [daysBeforeYear_add positive] at high
  exact ⟨_, _, _, rfl, positive, yearOf_le h before, monthDay_hasDate (by omega) (by omega)⟩

end SignalDesk.Calendar
