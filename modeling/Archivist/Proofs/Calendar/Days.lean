import Archivist.Calendar.Date
import Mathlib.Order.Monotone.Basic

set_option autoImplicit false

namespace Archivist.Calendar

theorem yearStart_mono {year other : Int} (later : year ≤ other) :
    yearStart year ≤ yearStart other := by
  rcases Int.lt_or_eq_of_le later with before | rfl
  · simp only [yearStart]
    omega
  · exact Int.le_refl _

theorem daysBeforeMonth_mono (year : Int) : Monotone (daysBeforeMonth year) := by
  refine monotone_nat_of_le_succ fun month => ?_
  cases month with
  | zero => exact Nat.le_refl 0
  | succ month => exact Nat.le_add_right _ _

namespace Date

theorem yearOfDay_eq_iff {number year : Int} :
    yearOfDay number = year ↔ yearStart year ≤ number ∧ number < yearStart (year + 1) := by
  have begins := yearStart_yearOfDay_le number
  have ends := lt_yearStart_yearOfDay number
  constructor
  · rintro rfl
    exact ⟨begins, ends⟩
  · rintro ⟨after, before⟩
    rcases Int.lt_trichotomy (yearOfDay number) year with early | same | late
    · have passed := yearStart_mono (Int.add_one_le_of_lt early)
      omega
    · exact same
    · have coming := yearStart_mono (Int.add_one_le_of_lt late)
      omega

/-- The years of four places, with one more at either end, are far from the ends of the calendar. -/
theorem bounds_of_yearOfDay {number : Int} (begun : -1 ≤ yearOfDay number)
    (ended : yearOfDay number ≤ 10000) : -720000 ≤ number ∧ number < 3000000 := by
  have begins := yearStart_yearOfDay_le number
  have ends := lt_yearStart_yearOfDay number
  simp only [yearStart] at begins ends
  omega

variable {date other : Date}

theorem ordinal_le (valid : date.isValid = true) {month : Nat} (later : date.month < month) :
    date.ordinal ≤ daysBeforeMonth date.year month := by
  rw [isValid_iff] at valid
  have next := daysBeforeMonth_mono date.year later
  rw [Nat.succ_eq_add_one, daysBeforeMonth_succ date.year valid.1] at next
  rw [ordinal]
  omega

theorem yearOfDay_dayNumber (valid : date.isValid = true) : yearOfDay date.dayNumber = date.year := by
  have first := (ordinal_bounds date valid).1
  have named : date.month < 13 := Nat.lt_succ_of_le ((isValid_iff date).mp valid).2.1
  have last := ordinal_le valid named
  rw [yearOfDay_eq_iff, yearStart_succ, dayNumber]
  omega

theorem dayNumber_inj (valid : date.isValid = true) (also : other.isValid = true)
    (same : date.dayNumber = other.dayNumber) : date = other := by
  have sameYear : date.year = other.year := by
    rw [← yearOfDay_dayNumber valid, ← yearOfDay_dayNumber also, same]
  have sameOrdinal : date.ordinal = other.ordinal := by
    rw [dayNumber, dayNumber, sameYear] at same
    omega
  obtain ⟨year, month, day⟩ := date
  obtain ⟨otherYear, otherMonth, otherDay⟩ := other
  cases sameYear
  have positive : 1 ≤ day := ((isValid_iff _).mp valid).2.2.1
  have alsoPositive : 1 ≤ otherDay := ((isValid_iff _).mp also).2.2.1
  rcases Nat.lt_trichotomy month otherMonth with before | rfl | after
  · have ended := ordinal_le valid before
    simp only [ordinal] at sameOrdinal ended
    omega
  · simp only [ordinal, Nat.add_left_cancel_iff] at sameOrdinal
    rw [sameOrdinal]
  · have ended := ordinal_le also after
    simp only [ordinal] at sameOrdinal ended
    omega

theorem isValid_of_ofDayNumber? {number : Int} (dated : ofDayNumber? number = some date) :
    date.isValid = true := by
  simp only [ofDayNumber?] at dated
  split at dated
  · cases dated
    exact isValid_ofDayNumber number
  · cases dated

end Date

end Archivist.Calendar
