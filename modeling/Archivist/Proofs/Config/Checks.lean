import Archivist.Config.Settings
import Archivist.Proofs.Calendar.Bucket

set_option autoImplicit false

namespace Archivist

open Calendar (Date Instant Pattern PatternItem)

namespace Calendar

namespace PatternItem

def isOfDate : PatternItem → Bool
  | .literal _ | .part .. | .name _ => true
  | .clockNumber | .clockText => false

theorem isSome_itemText (item : PatternItem) (date : Date) :
    (Pattern.itemText date item).isSome = item.isOfDate := by
  cases item <;> rfl

end PatternItem

/-- A date can be written with a pattern when it names no part of a time of day and none of a zone. -/
theorem Pattern.isSome_format (pattern : Pattern) (date : Date) :
    (pattern.format date).isSome = pattern.all PatternItem.isOfDate := by
  induction pattern with
  | nil => rfl
  | cons item rest ih =>
    rw [List.all_cons, ← ih, ← item.isSome_itemText date, format]
    cases itemText date item <;> cases format rest date <;> rfl

theorem Date.isSome_ofDayNumber?_of_firstYear (number : Int) (late : yearStart firstYear ≤ number)
    (early : number ≤ 95000000) : (ofDayNumber? number).isSome = true := by
  have within : firstYear ≤ yearOfDay number ∧ yearOfDay number ≤ lastYear := by
    have start : yearStart firstYear = -96465292 := by decide
    have guess : firstYear - 1 ≤ (number + 719162) * 400 / 146097 + 1 ∧
        (number + 719162) * 400 / 146097 + 1 ≤ lastYear - 1 := by
      simp only [firstYear, lastYear]
      omega
    simp only [yearOfDay]
    generalize (number + 719162) * 400 / 146097 + 1 = year at guess ⊢
    have above (other : Int) (before : number < yearStart other) : firstYear < other :=
      Int.not_le.mp fun reached =>
        Int.not_le.mpr before (Int.le_trans (yearStart_mono reached) late)
    split
    · rename_i before
      have first := above year before
      omega
    · split
      · omega
      · rename_i before
        have first := above (year + 1) (Int.not_le.mp before)
        omega
  have year : (ofDayNumber number).year = yearOfDay number := rfl
  simp only [ofDayNumber?, year, within, and_self, ↓reduceIte, Option.isSome_some]

end Calendar

/-- The seconds from the first day that has a date to 1970. -/
def longestAge : Nat := (-Calendar.yearStart Date.firstYear * Calendar.secondsPerDay).toNat

/-- A minimum age that is not too long can be taken off whatever a clock reads in these years. -/
theorem Finder.exists_cutoff (finder : Finder) (now : Instant)
    (whole : now.nanos < 2 * Calendar.nanosPerSecond)
    (early : 1970 ≤ Date.yearOfDay (now.seconds / Calendar.secondsPerDay))
    (late : Date.yearOfDay (now.seconds / Calendar.secondsPerDay) ≤ 9998)
    (short : finder.minAge ≤ longestAge) : ∃ cutoff, finder.cutoff now = some cutoff := by
  have start : Calendar.yearStart Date.firstYear = -96465292 := by decide
  have longest : longestAge = 8334601228800 := by decide
  have day : Calendar.secondsPerDay = 86400 := rfl
  have epoch : Calendar.yearStart 1970 = 0 := by decide
  rw [day] at early late
  have since := Calendar.yearStart_mono early
  have begun := Date.yearStart_yearOfDay_le (now.seconds / 86400)
  have bound : now.seconds / 86400 ≤ 90000000 := by
    simp only [Date.yearOfDay] at late
    split at late
    · omega
    · split at late <;> omega
  refine now.exists_shift _ whole fun other after near => ?_
  rw [day]
  refine Date.isSome_ofDayNumber?_of_firstYear _ ?_ ?_ <;> omega

namespace Settings

variable {settings : Settings}

/-- Settings that have passed their checks describe an archiver, unless the minimum age is longer
than any span of time. -/
theorem archiver?_of_checked (checked : settings.fault? = none) :
    ∃ namer offset, Namer.ofText settings.archiver.datePattern = .ok namer ∧
      offset.natAbs < 86400 ∧
      settings.archiver? =
        if Instant.longestSpan < settings.archiver.minAgeSeconds * 1000 then
          .error (.crash .ageTooLong)
        else .ok {
          partitions := .ofList settings.partitions
          finder := ⟨settings.root, settings.archiver.minAgeSeconds, offset,
            settings.archiver.rollover, settings.archiver.retryPolicy⟩
          mover := ⟨namer, settings.root, settings.dependents, settings.archiver.retryPolicy⟩
          batchSize := settings.archiver.batchSize } := by
  rw [fault?] at checked
  split at checked
  · cases checked
  split at checked
  · cases checked
  rename_i offset offsets
  split at checked
  · cases checked
  rename_i namer named
  refine ⟨namer, offset, ?_, ?_, ?_⟩
  · rw [ArchiverSettings.namer] at named
    split at named
    · rename_i same
      cases named
      exact same
    · cases named
  · rw [ArchiverSettings.offset, ArchiverSettings.offset?] at offsets
    by_cases near : (settings.archiver.offsetMinutes * 60).natAbs < 86400
    · simp only [near, ↓reduceIte, Except.ok.injEq] at offsets
      exact offsets ▸ near
    · simp only [near, ↓reduceIte, reduceCtorEq] at offsets
  · simp only [archiver?, named, offsets, ArchiverSettings.minAge?]
    by_cases long : Instant.longestSpan < settings.archiver.minAgeSeconds * 1000
    · simp only [long, ↓reduceIte]
    · simp only [long, ↓reduceIte]

end Settings

end Archivist
