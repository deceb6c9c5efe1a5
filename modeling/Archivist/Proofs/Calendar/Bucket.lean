import Archivist.Calendar.Rollover
import Archivist.Proofs.Calendar.Days

set_option autoImplicit false

namespace Archivist.Calendar

theorem Weekday.fromMonday_ofDayNumber (number : Int) :
    ((ofDayNumber number).fromMonday : Int) = (number + 3) % 7 := by
  have days : (number + 3) % 7 = 0 ∨ (number + 3) % 7 = 1 ∨ (number + 3) % 7 = 2 ∨
      (number + 3) % 7 = 3 ∨ (number + 3) % 7 = 4 ∨ (number + 3) % 7 = 5 ∨
      (number + 3) % 7 = 6 := by omega
  rcases days with day | day | day | day | day | day | day <;> rw [ofDayNumber, day] <;> rfl

def Instant.year (instant : Instant) : Int := Date.yearOfDay (instant.seconds / secondsPerDay)

theorem Instant.seconds_le_of_isAtMost {instant later : Instant}
    (ordered : instant.isAtMost later = true) : instant.seconds ≤ later.seconds := by
  rw [isAtMost_iff] at ordered
  omega

namespace Rollover

variable {rollover : Rollover} {instant first second : Instant} {offset : Int} {date earlier : Date}

def firstDay (rollover : Rollover) (instant : Instant) (offset : Int) : Int :=
  let day := (instant.seconds + offset) / secondsPerDay
  match rollover with
  | .day => day
  | .week => day - (day + 3) % 7

/-- A bucket begins with its first day, as far as the local day has a date. -/
theorem bucket_eq (rollover : Rollover) (instant : Instant) (offset : Int) :
    rollover.bucket instant offset = (instant.localDate offset).bind fun _ =>
      Date.ofDayNumber? (rollover.firstDay instant offset) := by
  unfold bucket
  cases localDay : instant.localDate offset with
  | none => rfl
  | some day =>
    cases rollover with
    | day => exact localDay.symm
    | week =>
      simp only [Option.bind_some, Date.weekday, Weekday.fromMonday_ofDayNumber,
        Date.dayNumber_of_ofDayNumber? localDay, firstDay]

theorem dayNumber_bucket (bucketed : rollover.bucket instant offset = some date) :
    date.dayNumber = rollover.firstDay instant offset := by
  rw [bucket_eq, Option.bind_eq_some_iff] at bucketed
  obtain ⟨_, _, dated⟩ := bucketed
  exact Date.dayNumber_of_ofDayNumber? dated

theorem isValid_of_bucket (bucketed : rollover.bucket instant offset = some date) :
    date.isValid = true := by
  rw [bucket_eq, Option.bind_eq_some_iff] at bucketed
  obtain ⟨_, _, dated⟩ := bucketed
  exact Date.isValid_of_ofDayNumber? dated

theorem firstDay_mono (rollover : Rollover) (offset : Int) (later : first.seconds ≤ second.seconds) :
    rollover.firstDay first offset ≤ rollover.firstDay second offset := by
  have days : (first.seconds + offset) / secondsPerDay ≤ (second.seconds + offset) / secondsPerDay :=
    Int.ediv_le_ediv (by decide) (by omega)
  cases rollover with
  | day => exact days
  | week =>
    simp only [firstDay]
    omega

theorem bucket_mono (later : first.seconds ≤ second.seconds)
    (bucketed : rollover.bucket first offset = some earlier)
    (also : rollover.bucket second offset = some date) : earlier.dayNumber ≤ date.dayNumber := by
  rw [dayNumber_bucket bucketed, dayNumber_bucket also]
  exact firstDay_mono rollover offset later

theorem isSome_bucket_of_days (late : -720000 * secondsPerDay ≤ instant.seconds)
    (early : instant.seconds ≤ 3000000 * secondsPerDay) (rollover : Rollover)
    (near : offset.natAbs < 86400) : (rollover.bucket instant offset).isSome = true := by
  simp only [secondsPerDay] at late early
  obtain ⟨day, localDay⟩ := Option.isSome_iff_exists.mp
    (Date.isSome_ofDayNumber? ((instant.seconds + offset) / secondsPerDay)
      (by simp only [secondsPerDay]; omega) (by simp only [secondsPerDay]; omega))
  rw [bucket_eq, Instant.localDate, localDay, Option.bind_some]
  cases rollover <;>
    exact Date.isSome_ofDayNumber? _ (by simp only [firstDay, secondsPerDay]; omega)
      (by simp only [firstDay, secondsPerDay]; omega)

theorem isSome_bucket {text : String} (written : Instant.read text = some instant)
    (rollover : Rollover) (near : offset.natAbs < 86400) :
    (rollover.bucket instant offset).isSome = true := by
  obtain ⟨late, early⟩ := Instant.seconds_of_read written
  exact isSome_bucket_of_days late early rollover near

theorem isSome_bucket_of_year (begun : -1 ≤ instant.year) (ended : instant.year ≤ 10000)
    (rollover : Rollover) (near : offset.natAbs < 86400) :
    (rollover.bucket instant offset).isSome = true := by
  obtain ⟨late, early⟩ := Date.bounds_of_yearOfDay begun ended
  simp only [secondsPerDay] at late early
  refine isSome_bucket_of_days ?_ ?_ rollover near <;> simp only [secondsPerDay] <;> omega

end Rollover

end Archivist.Calendar
