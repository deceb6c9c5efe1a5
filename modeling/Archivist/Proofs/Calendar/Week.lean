import Archivist.Archive.Destination
import Archivist.Proofs.Calendar.Bucket
import Archivist.Proofs.Calendar.Days
import Archivist.Proofs.Calendar.Wording

set_option autoImplicit false

namespace Archivist

namespace Calendar

def mondayOf (number : Int) : Int := number - (number + 3) % 7

theorem mondayOf_mondayOf (number : Int) : mondayOf (mondayOf number) = mondayOf number := by
  simp only [mondayOf]
  omega

theorem Weekday.eq_monday_iff (number : Int) :
    ofDayNumber number = .monday ↔ (number + 3) % 7 = 0 := by
  rw [← fromMonday_ofDayNumber]
  cases ofDayNumber number <;> decide

namespace Date

structure IsMondayOf (monday date : Date) : Prop where
  valid : monday.isValid = true
  weekday : monday.weekday = .monday
  begun : monday.dayNumber ≤ date.dayNumber
  lasts : date.dayNumber ≤ monday.dayNumber + 6

instance (monday date : Date) : Decidable (monday.IsMondayOf date) :=
  decidable_of_iff (monday.isValid = true ∧ monday.weekday = .monday ∧
      monday.dayNumber ≤ date.dayNumber ∧ date.dayNumber ≤ monday.dayNumber + 6)
    ⟨fun ⟨valid, weekday, begun, lasts⟩ => ⟨valid, weekday, begun, lasts⟩,
      fun ⟨valid, weekday, begun, lasts⟩ => ⟨valid, weekday, begun, lasts⟩⟩

variable {monday date : Date}

theorem isMondayOf_iff (valid : monday.isValid = true) :
    monday.IsMondayOf date ↔ monday.dayNumber = mondayOf date.dayNumber := by
  rw [mondayOf]
  constructor
  · rintro ⟨_, weekday, begun, lasts⟩
    rw [Date.weekday, Weekday.eq_monday_iff] at weekday
    omega
  · intro same
    refine ⟨valid, (Weekday.eq_monday_iff _).mpr ?_, ?_, ?_⟩ <;> omega

end Date

namespace IsoWeek

/-- The number of the Monday of a week. The first week of a year is the one that holds the fourth of
January. -/
def monday (week : IsoWeek) : Int := mondayOf (yearStart week.year + 3) + 7 * (week.week - 1)

/-- A date lies in a week, which comes before the first week of the next year. -/
structure Holds (week : IsoWeek) (date : Date) : Prop where
  counted : 1 ≤ week.week
  begun : week.monday ≤ date.dayNumber
  lasts : date.dayNumber ≤ week.monday + 6
  sameYear : week.monday < (⟨week.year + 1, 1⟩ : IsoWeek).monday

theorem Holds.mondayOf_eq {week : IsoWeek} {date : Date} (holds : week.Holds date) :
    mondayOf date.dayNumber = week.monday := by
  obtain ⟨_, begun, lasts, _⟩ := holds
  simp only [monday, mondayOf] at begun lasts ⊢
  omega

/-- The year in four places, the letter W and the week in two. -/
def text (week : IsoWeek) : String :=
  Numeral.zeroPadded 4 week.year.natAbs ++ "-W" ++ Numeral.zeroPadded 2 week.week

theorem text_injective {week other : IsoWeek} (within : 0 ≤ week.year ∧ week.year ≤ 9999)
    (also : 0 ≤ other.year ∧ other.year ≤ 9999) (same : week.text = other.text) :
    week = other := by
  have width {year : Int} (within : 0 ≤ year ∧ year ≤ 9999) :
      (Numeral.zeroPadded 4 year.natAbs).toList.length = 4 := by
    have fits : year.natAbs < 10000 := by omega
    exact Numeral.length_zeroPadded (by decide) fits
  have letters := congrArg String.toList same
  simp only [text, String.toList_append, List.append_assoc] at letters
  obtain ⟨years, rest⟩ := List.append_inj letters ((width within).trans (width also).symm)
  have sameYear := Numeral.zeroPadded_injective (String.toList_inj.mp years)
  have sameWeek := Numeral.zeroPadded_injective
    (String.toList_inj.mp (List.append_cancel_left rest))
  obtain ⟨year, number⟩ := week
  obtain ⟨otherYear, otherNumber⟩ := other
  simp only [IsoWeek.mk.injEq] at *
  omega

end IsoWeek

namespace Date

variable {date other : Date}

theorem isoWeek_eq (date : Date) : date.isoWeek =
    ⟨yearOfDay (mondayOf date.dayNumber + 3),
      ((mondayOf date.dayNumber + 3 - yearStart (yearOfDay (mondayOf date.dayNumber + 3))) / 7
        + 1).toNat⟩ := by
  rw [isoWeek, weekday, Weekday.fromMonday_ofDayNumber]
  rfl

theorem holds_iff (week : IsoWeek) (date : Date) : week.Holds date ↔ week = date.isoWeek := by
  rw [isoWeek_eq]
  constructor
  · intro holds
    have monday := holds.mondayOf_eq
    obtain ⟨counted, _, _, sameYear⟩ := holds
    obtain ⟨year, number⟩ := week
    simp only [IsoWeek.monday] at monday sameYear counted
    have inYear : yearOfDay (mondayOf date.dayNumber + 3) = year := by
      rw [yearOfDay_eq_iff, monday]
      simp only [mondayOf] at sameYear ⊢
      omega
    rw [inYear, monday]
    refine congrArg (IsoWeek.mk year) ?_
    simp only [mondayOf]
    omega
  · rintro rfl
    obtain ⟨begins, ends⟩ := yearOfDay_eq_iff.mp (Eq.refl (yearOfDay (mondayOf date.dayNumber + 3)))
    refine ⟨?_, ?_, ?_, ?_⟩ <;> simp only [IsoWeek.monday]
    all_goals
      simp only [mondayOf] at begins ends ⊢
      omega

theorem isoWeek_eq_iff : date.isoWeek = other.isoWeek ↔
    mondayOf date.dayNumber = mondayOf other.dayNumber := by
  constructor
  · intro same
    rw [((holds_iff _ date).mpr rfl).mondayOf_eq, ((holds_iff _ other).mpr rfl).mondayOf_eq, same]
  · intro same
    rw [isoWeek_eq, isoWeek_eq, same]

theorem week_isoWeek_le (date : Date) : date.isoWeek.week ≤ 53 := by
  obtain ⟨begins, ends⟩ := yearOfDay_eq_iff.mp (Eq.refl (yearOfDay (mondayOf date.dayNumber + 3)))
  rw [isoWeek_eq]
  simp only [yearStart] at begins ends ⊢
  omega

end Date

namespace Pattern

/-- The year and the week of a date, with the letter W between them. -/
def isoWeeks : Pattern :=
  [.part .isoYear .zeros, .literal ['-'], .literal ['W'], .part .isoWeek .zeros]

theorem read_isoWeeks : read "%G-W%V" = some isoWeeks := by
  have year : readSpecifier ['G', '-', 'W', '%', 'V'] = some ([.part .isoYear .zeros], 1) := rfl
  have week : readSpecifier ['V'] = some ([.part .isoWeek .zeros], 1) := rfl
  have letters : "%G-W%V".toList = ['%', 'G', '-', 'W', '%', 'V'] := by decide
  rw [read, letters, readItems_specifier year, List.drop_one, List.tail_cons,
    readItems_literal (by decide), readItems_literal (by decide), readItems_specifier week,
    List.drop_one, List.tail_cons, readItems_nil]
  rfl

theorem format_isoWeeks {date : Date}
    (within : 0 ≤ date.isoWeek.year ∧ date.isoWeek.year ≤ 9999) :
    format isoWeeks date = some date.isoWeek.text := by
  have small : date.isoWeek.week < 100 := Nat.lt_of_le_of_lt date.week_isoWeek_le (by decide)
  have letters : "-W" = String.ofList ['-'] ++ String.ofList ['W'] := by decide
  simp only [isoWeeks, format, itemText, partText, yearText_zeros within.1 within.2,
    twoPlaces_zeros small, IsoWeek.text, letters, String.append_empty, String.append_assoc]

end Pattern

/-- Every day lies in a bucket that begins with the Monday of its week. -/
theorem Rollover.exists_week_bucket {instant : Instant} {offset : Int} {date : Date}
    (localDay : instant.localDate offset = some date)
    (within : 0 ≤ date.isoWeek.year ∧ date.isoWeek.year ≤ 9999) :
    ∃ monday, week.bucket instant offset = some monday ∧ monday.isValid = true ∧
      monday.dayNumber = mondayOf date.dayNumber := by
  rw [date.isoWeek_eq] at within
  obtain ⟨late, early⟩ := Date.bounds_of_yearOfDay (Int.le_trans (by decide) within.1)
    (Int.le_trans within.2 (by decide))
  obtain ⟨monday, dated⟩ := Option.isSome_iff_exists.mp
    (Date.isSome_ofDayNumber? (mondayOf date.dayNumber) (by omega) (by omega))
  refine ⟨monday, ?_, Date.isValid_of_ofDayNumber? dated, Date.dayNumber_of_ofDayNumber? dated⟩
  rw [bucket_eq, localDay, Option.bind_some, firstDay, ← Date.dayNumber_of_ofDayNumber? localDay]
  exact dated

end Calendar

namespace Namer

open Calendar

variable {namer : Namer} {instant other : Instant} {offset : Int} {date otherDate : Date}

theorem ofText_isoWeeks : ofText "%G-W%V" = .ok ⟨Pattern.isoWeeks⟩ := by
  rw [ofText, Pattern.read_isoWeeks, if_neg (by decide)]

/-- The suffix of a Monday is the text of the week of every day up to the Sunday behind it. -/
theorem suffix_of_monday {monday : Date} (number : monday.dayNumber = mondayOf date.dayNumber)
    (within : 0 ≤ date.isoWeek.year ∧ date.isoWeek.year ≤ 9999) :
    suffix ⟨Pattern.isoWeeks⟩ monday = some date.isoWeek.text := by
  have same : monday.isoWeek = date.isoWeek := by
    rw [Date.isoWeek_eq_iff, number, mondayOf_mondayOf]
  rw [← same] at within ⊢
  exact Pattern.format_isoWeeks within

/-- Where destinations are named for years and weeks, the bucket of an instant begins with the one
Monday that its local day is at most six days behind, the suffix made from that Monday tells the
year and the week of the local day itself, and instants have one suffix when their local days lie in
one week and only then. -/
theorem weekly_suffixes_name_the_week (weekly : ofText "%G-W%V" = .ok namer)
    (localDay : instant.localDate offset = some date)
    (within : 0 ≤ date.isoWeek.year ∧ date.isoWeek.year ≤ 9999)
    (otherDay : other.localDate offset = some otherDate)
    (otherWithin : 0 ≤ otherDate.isoWeek.year ∧ otherDate.isoWeek.year ≤ 9999) :
    ∃ monday, Rollover.week.bucket instant offset = some monday ∧
      (∀ day : Date, day.IsMondayOf date ↔ day = monday) ∧
      (∀ week : IsoWeek, week.Holds date ↔ week = date.isoWeek) ∧
      namer.suffix monday = some date.isoWeek.text ∧
      ((Rollover.week.bucket instant offset).bind namer.suffix =
          (Rollover.week.bucket other offset).bind namer.suffix ↔
        ∃ day : Date, day.IsMondayOf date ∧ day.IsMondayOf otherDate) := by
  cases ofText_isoWeeks.symm.trans weekly
  obtain ⟨monday, bucketed, valid, number⟩ := Rollover.exists_week_bucket localDay within
  obtain ⟨otherMonday, alsoBucketed, alsoValid, otherNumber⟩ :=
    Rollover.exists_week_bucket otherDay otherWithin
  refine ⟨monday, bucketed, fun day => ⟨?_, ?_⟩, fun week => Date.holds_iff week date,
    suffix_of_monday number within, ?_⟩
  · intro first
    exact Date.dayNumber_inj first.valid valid
      (((Date.isMondayOf_iff first.valid).mp first).trans number.symm)
  · rintro rfl
    exact (Date.isMondayOf_iff valid).mpr number
  · rw [bucketed, alsoBucketed, Option.bind_some, Option.bind_some,
      suffix_of_monday number within, suffix_of_monday otherNumber otherWithin, Option.some.injEq]
    constructor
    · intro same
      have week := IsoWeek.text_injective within otherWithin same
      refine ⟨monday, (Date.isMondayOf_iff valid).mpr number, (Date.isMondayOf_iff valid).mpr ?_⟩
      rw [number, Date.isoWeek_eq_iff.mp week]
    · rintro ⟨day, first, second⟩
      refine congrArg IsoWeek.text (Date.isoWeek_eq_iff.mpr ?_)
      rw [← (Date.isMondayOf_iff first.valid).mp first,
        (Date.isMondayOf_iff second.valid).mp second]

/-- An hour east of universal time, the last evening of 2020 is on the first of January 2021, a Friday
of the last week of 2020. The Monday behind it begins the first week of 2021. -/
theorem new_year_in_the_last_week :
    let evening : Instant := ⟨1609457400, 0⟩
    let later : Instant := ⟨1609716600, 0⟩
    Rollover.week.bucket evening 3600 = some ⟨2020, 12, 28⟩ ∧
      suffix ⟨Pattern.isoWeeks⟩ ⟨2020, 12, 28⟩ = some "2020-W53" ∧
      (Rollover.week.bucket evening 3600).bind (suffix ⟨Pattern.isoWeeks⟩) ≠
        (Rollover.week.bucket later 3600).bind (suffix ⟨Pattern.isoWeeks⟩) := by
  have friday : Instant.localDate ⟨1609457400, 0⟩ 3600 = some ⟨2021, 1, 1⟩ := by decide +kernel
  have coming : Instant.localDate ⟨1609716600, 0⟩ 3600 = some ⟨2021, 1, 4⟩ := by decide +kernel
  obtain ⟨monday, bucketed, unique, _, named, alike⟩ :=
    weekly_suffixes_name_the_week ofText_isoWeeks friday (by decide +kernel) coming
      (by decide +kernel)
  obtain rfl := (unique ⟨2020, 12, 28⟩).mp (by decide +kernel)
  refine ⟨bucketed, named.trans (by decide +kernel), fun same => ?_⟩
  obtain ⟨day, first, second⟩ := alike.mp same
  cases (unique day).mp first
  exact absurd second (by decide +kernel)

end Namer

end Archivist
