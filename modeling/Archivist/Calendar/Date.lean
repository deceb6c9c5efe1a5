import Archivist.Numeral

set_option autoImplicit false

namespace Archivist.Calendar

def isLeap (year : Int) : Bool := year % 4 = 0 && (year % 100 ≠ 0 || year % 400 = 0)

def daysInMonth (year : Int) (month : Nat) : Nat :=
  match month with
  | 2 => if isLeap year then 29 else 28
  | 4 | 6 | 9 | 11 => 30
  | _ => 31

theorem daysInMonth_le (year : Int) (month : Nat) : daysInMonth year month ≤ 31 := by
  unfold daysInMonth
  split
  · split <;> omega
  all_goals omega

/-- The number of the first of January. -/
def yearStart (year : Int) : Int :=
  let passed := year - 1
  365 * passed + passed / 4 - passed / 100 + passed / 400 - 719162

def daysBeforeMonth (year : Int) : Nat → Nat
  | 0 | 1 => 0
  | month + 1 => daysBeforeMonth year month + daysInMonth year month

structure Date where
  year : Int
  month : Nat
  day : Nat
deriving Repr, DecidableEq

inductive Weekday where
  | monday | tuesday | wednesday | thursday | friday | saturday | sunday
deriving Repr, DecidableEq

namespace Weekday

/-- Monday is `0`. -/
def fromMonday : Weekday → Nat
  | .monday => 0
  | .tuesday => 1
  | .wednesday => 2
  | .thursday => 3
  | .friday => 4
  | .saturday => 5
  | .sunday => 6

/-- Sunday is `0`. -/
def fromSunday (weekday : Weekday) : Nat := (weekday.fromMonday + 1) % 7

def ofDayNumber (number : Int) : Weekday :=
  match ((number + 3) % 7).toNat with
  | 0 => .monday
  | 1 => .tuesday
  | 2 => .wednesday
  | 3 => .thursday
  | 4 => .friday
  | 5 => .saturday
  | _ => .sunday

def longName : Weekday → String
  | .monday => "Monday"
  | .tuesday => "Tuesday"
  | .wednesday => "Wednesday"
  | .thursday => "Thursday"
  | .friday => "Friday"
  | .saturday => "Saturday"
  | .sunday => "Sunday"

def shortName (weekday : Weekday) : String := String.ofList (weekday.longName.toList.take 3)

end Weekday

/-- The week of a date together with the year that the week counts towards. -/
structure IsoWeek where
  year : Int
  week : Nat
deriving Repr, DecidableEq

namespace Date

def firstYear : Int := -262143

def lastYear : Int := 262142

def isValid (date : Date) : Bool :=
  1 ≤ date.month && date.month ≤ 12 && 1 ≤ date.day
    && date.day ≤ daysInMonth date.year date.month

theorem isValid_iff (date : Date) : date.isValid = true ↔
    1 ≤ date.month ∧ date.month ≤ 12 ∧ 1 ≤ date.day ∧
      date.day ≤ daysInMonth date.year date.month := by
  simp only [isValid, Bool.and_eq_true, decide_eq_true_eq, and_assoc]

/-- The day within its year, starting at one. -/
def ordinal (date : Date) : Nat := daysBeforeMonth date.year date.month + date.day

def dayNumber (date : Date) : Int := yearStart date.year + date.ordinal - 1

def yearOfDay (number : Int) : Int :=
  let guess := (number + 719162) * 400 / 146097 + 1
  if number < yearStart guess then guess - 1
  else if yearStart (guess + 1) ≤ number then guess + 1
  else guess

/-- The month and day that lie some days after the start of a month. -/
private def walk (year : Int) : Nat → Nat → Nat → Nat × Nat
  | 0, month, passed => (month, passed + 1)
  | later + 1, month, passed =>
    if passed < daysInMonth year month then (month, passed + 1)
    else walk year later (month + 1) (passed - daysInMonth year month)

def ofDayNumber (number : Int) : Date :=
  let year := yearOfDay number
  let place := walk year 11 1 (number - yearStart year).toNat
  ⟨year, place.1, place.2⟩

/-- A day outside the years that dates may have has none. -/
def ofDayNumber? (number : Int) : Option Date :=
  let date := ofDayNumber number
  if firstYear ≤ date.year ∧ date.year ≤ lastYear then some date else none

theorem daysBeforeMonth_succ (year : Int) {month : Nat} (named : 1 ≤ month) :
    daysBeforeMonth year (month + 1) = daysBeforeMonth year month + daysInMonth year month := by
  cases month with
  | zero => omega
  | succ month => rfl

/-- Counting the days of a year up to the place where a walk ends gives back how far it went. -/
private theorem daysBeforeMonth_walk (year : Int) (later month passed : Nat) (named : 1 ≤ month) :
    daysBeforeMonth year (walk year later month passed).1 + (walk year later month passed).2 =
      daysBeforeMonth year month + passed + 1 := by
  induction later generalizing month passed with
  | zero =>
    simp only [walk]
    omega
  | succ later ih =>
    simp only [walk]
    split
    · simp only
      omega
    · rename_i notIn
      have next := ih (month + 1) (passed - daysInMonth year month) (by omega)
      rw [next, daysBeforeMonth_succ year named]
      omega

theorem yearStart_succ (year : Int) :
    yearStart (year + 1) = yearStart year + daysBeforeMonth year 13 := by
  simp only [yearStart, daysBeforeMonth, daysInMonth, isLeap, Bool.and_eq_true, Bool.or_eq_true,
    decide_eq_true_eq]
  split <;> omega

theorem ordinal_bounds (date : Date) (valid : date.isValid = true) :
    1 ≤ date.ordinal ∧ date.ordinal ≤ 372 := by
  have before : ∀ month, daysBeforeMonth date.year month ≤ 31 * (month - 1) := by
    intro month
    induction month using daysBeforeMonth.induct with
    | case1 => exact Nat.zero_le _
    | case2 => exact Nat.zero_le _
    | case3 month later ih =>
      have days := daysInMonth_le date.year month
      have positive : month ≠ 0 := later
      simp only [daysBeforeMonth]
      omega
  have here := before date.month
  have days := daysInMonth_le date.year date.month
  rw [isValid_iff] at valid
  simp only [ordinal]
  omega

theorem isSome_ofDayNumber? (number : Int) (late : -95000000 ≤ number) (early : number ≤ 95000000) :
    (ofDayNumber? number).isSome = true := by
  have first : firstYear ≤ yearOfDay number ∧ yearOfDay number ≤ lastYear := by
    simp only [yearOfDay, firstYear, lastYear]
    split
    · omega
    · split <;> omega
  have year : (ofDayNumber number).year = yearOfDay number := rfl
  simp only [ofDayNumber?, year, first, and_self, ↓reduceIte, Option.isSome_some]

theorem yearStart_yearOfDay_le (number : Int) : yearStart (yearOfDay number) ≤ number := by
  simp only [yearOfDay]
  split
  · -- A guess is too late by less than a year.
    simp only [yearStart]
    omega
  · split <;> omega

theorem lt_yearStart_yearOfDay (number : Int) : number < yearStart (yearOfDay number + 1) := by
  simp only [yearOfDay]
  split
  · rename_i before
    rwa [Int.sub_add_cancel]
  · split
    · -- A guess is too early by less than a year.
      simp only [yearStart]
      omega
    · omega

private theorem walk_isValid (year : Int) (later month passed : Nat) (named : 1 ≤ month)
    (fits : month + later ≤ 12)
    (within : daysBeforeMonth year month + passed < daysBeforeMonth year (month + later + 1)) :
    (⟨year, (walk year later month passed).1, (walk year later month passed).2⟩ : Date).isValid =
      true := by
  rw [isValid_iff]
  induction later generalizing month passed with
  | zero =>
    rw [Nat.add_zero, daysBeforeMonth_succ year named] at within
    simp only [walk]
    omega
  | succ later ih =>
    simp only [walk]
    split
    · simp only
      omega
    · refine ih (month + 1) _ (by omega) (by omega) ?_
      rw [daysBeforeMonth_succ year named, Nat.add_right_comm month 1 later]
      rw [← Nat.add_assoc] at within
      omega

theorem isValid_ofDayNumber (number : Int) : (ofDayNumber number).isValid = true := by
  have begins := yearStart_yearOfDay_le number
  have ends := lt_yearStart_yearOfDay number
  have january : daysBeforeMonth (yearOfDay number) 1 = 0 := rfl
  rw [yearStart_succ] at ends
  refine walk_isValid (yearOfDay number) 11 1 _ (Nat.le_refl 1) (Nat.le_refl 12) ?_
  change _ < daysBeforeMonth (yearOfDay number) 13
  omega

theorem dayNumber_ofDayNumber (number : Int) : (ofDayNumber number).dayNumber = number := by
  have begins := yearStart_yearOfDay_le number
  have passed := daysBeforeMonth_walk (yearOfDay number) 11 1
    (number - yearStart (yearOfDay number)).toNat (Nat.le_refl 1)
  have january : daysBeforeMonth (yearOfDay number) 1 = 0 := rfl
  simp only [ofDayNumber, dayNumber, ordinal, passed, january]
  omega

theorem dayNumber_of_ofDayNumber? {number : Int} {date : Date}
    (dated : ofDayNumber? number = some date) : date.dayNumber = number := by
  simp only [ofDayNumber?] at dated
  split at dated
  · cases dated
    exact dayNumber_ofDayNumber number
  · cases dated

def weekday (date : Date) : Weekday := .ofDayNumber date.dayNumber

def quarter (date : Date) : Nat := (date.month + 2) / 3

/-- The weeks of the year so far when a week starts with the given weekday, counted from Monday. -/
def weeksFrom (date : Date) (start : Nat) : Nat :=
  (date.ordinal + 6 - (date.weekday.fromMonday + 7 - start) % 7) / 7

/-- A week counts towards the year that holds its Thursday. -/
def isoWeek (date : Date) : IsoWeek :=
  let thursday := date.dayNumber - date.weekday.fromMonday + 3
  let year := yearOfDay thursday
  ⟨year, ((thursday - yearStart year) / 7 + 1).toNat⟩

def monthName : Nat → String
  | 1 => "January"
  | 2 => "February"
  | 3 => "March"
  | 4 => "April"
  | 5 => "May"
  | 6 => "June"
  | 7 => "July"
  | 8 => "August"
  | 9 => "September"
  | 10 => "October"
  | 11 => "November"
  | _ => "December"

def shortMonthName (month : Nat) : String := String.ofList ((monthName month).toList.take 3)

end Date

end Archivist.Calendar
