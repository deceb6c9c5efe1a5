import Archivist.Archive.Destination
import Archivist.Archive.Discovery
import Archivist.Proofs.Calendar.Bucket
import Archivist.Proofs.Calendar.Wording

set_option autoImplicit false

namespace Archivist

namespace Calendar

namespace Pattern

/-- The year, the month and the day of a date, with dashes between them. -/
def days : Pattern :=
  [.part .year .zeros, .literal ['-'], .part .month .zeros, .literal ['-'], .part .day .zeros]

theorem read_days : read "%Y-%m-%d" = some days := by
  have year : readSpecifier ['Y', '-', '%', 'm', '-', '%', 'd'] = some ([.part .year .zeros], 1) :=
    rfl
  have month : readSpecifier ['m', '-', '%', 'd'] = some ([.part .month .zeros], 1) := rfl
  have day : readSpecifier ['d'] = some ([.part .day .zeros], 1) := rfl
  have letters : "%Y-%m-%d".toList = ['%', 'Y', '-', '%', 'm', '-', '%', 'd'] := by decide
  rw [read, letters, readItems_specifier year, List.drop_one, List.tail_cons,
    readItems_literal (by decide), readItems_specifier month, List.drop_one, List.tail_cons,
    readItems_literal (by decide), readItems_specifier day, List.drop_one, List.tail_cons,
    readItems_nil]
  simp [days]

theorem yearText_zeros_of_outside {year : Int} (outside : ¬ (0 ≤ year ∧ year ≤ 9999)) :
    yearText year .zeros = (if year < 0 then "-" else "+") ++ Numeral.zeroPadded 4 year.natAbs :=
  if_neg outside

/-- A year has a sign in front of it only when it needs one, and digits say the rest. -/
theorem yearText_zeros_injective {year other : Int}
    (same : yearText year .zeros = yearText other .zeros) : year = other := by
  have unsigned {plain signed : Int} (inside : 0 ≤ plain ∧ plain ≤ 9999)
      (outside : ¬ (0 ≤ signed ∧ signed ≤ 9999)) :
      yearText plain .zeros ≠ yearText signed .zeros := by
    intro equal
    rw [yearText_zeros inside.1 inside.2, yearText_zeros_of_outside outside] at equal
    -- The sign of the one would have to be among the digits of the other.
    have digits {character : Char} (sign : character.isDigit = false) :
        character ∉ (Numeral.zeroPadded 4 plain.natAbs).toList :=
      Numeral.not_mem_zeroPadded sign 4 plain.natAbs
    by_cases negative : signed < 0
    · rw [if_pos negative] at equal
      apply digits (show '-'.isDigit = false by decide)
      simp [equal]
    · rw [if_neg negative] at equal
      apply digits (show '+'.isDigit = false by decide)
      simp [equal]
  by_cases inside : 0 ≤ year ∧ year ≤ 9999
  · by_cases also : 0 ≤ other ∧ other ≤ 9999
    · rw [yearText_zeros inside.1 inside.2, yearText_zeros also.1 also.2] at same
      have number := Numeral.zeroPadded_injective same
      omega
    · exact absurd same (unsigned inside also)
  · by_cases also : 0 ≤ other ∧ other ≤ 9999
    · exact absurd same.symm (unsigned also inside)
    · rw [yearText_zeros_of_outside inside, yearText_zeros_of_outside also] at same
      have width (number : Int) :
          (if number < 0 then "-" else "+").toList.length = 1 := by split <;> rfl
      have letters := congrArg String.toList same
      simp only [String.toList_append] at letters
      obtain ⟨signs, digits⟩ := List.append_inj letters ((width year).trans (width other).symm)
      have number := Numeral.zeroPadded_injective (String.toList_inj.mp digits)
      have sign : year < 0 ↔ other < 0 := by
        by_cases negative : year < 0 <;> by_cases also : other < 0 <;>
          simp [negative, also] at signs ⊢
      omega

end Pattern

namespace Date

/-- A day of the calendar whose year is written with four digits. -/
structure HasFourPlaces (date : Date) : Prop where
  valid : date.isValid = true
  begun : 0 ≤ date.year
  ended : date.year ≤ 9999

/-- The year, and behind it the month and the day in two places each. -/
def text (date : Date) : String :=
  Pattern.yearText date.year .zeros ++
    ("-" ++ Numeral.zeroPadded 2 date.month ++ "-" ++ Numeral.zeroPadded 2 date.day)

variable {date other : Date}

theorem small_of_isValid (valid : date.isValid = true) : date.month < 100 ∧ date.day < 100 := by
  have days := daysInMonth_le date.year date.month
  rw [isValid_iff] at valid
  omega

theorem format_days (valid : date.isValid = true) :
    Pattern.format Pattern.days date = some date.text := by
  obtain ⟨month, day⟩ := small_of_isValid valid
  have dash : String.ofList ['-'] = "-" := by decide
  simp only [Pattern.days, Pattern.format, Pattern.itemText, Pattern.partText,
    Pattern.twoPlaces_zeros month, Pattern.twoPlaces_zeros day, text, dash, String.append_empty,
    String.append_assoc]

/-- The month and the day of a date take the last six characters, and the year has what is left. -/
theorem text_injective (valid : date.isValid = true) (also : other.isValid = true)
    (same : date.text = other.text) : date = other := by
  have width (value : Nat) (small : value < 100) :
      (Numeral.zeroPadded 2 value).toList.length = 2 := Numeral.length_zeroPadded (by decide) small
  obtain ⟨month, day⟩ := small_of_isValid valid
  obtain ⟨otherMonth, otherDay⟩ := small_of_isValid also
  have letters := congrArg String.toList same
  simp only [text, String.toList_append, List.append_assoc] at letters
  obtain ⟨years, rest⟩ := List.append_inj' letters (by
    simp only [List.length_append, width _ month, width _ day, width _ otherMonth,
      width _ otherDay])
  obtain ⟨months, days⟩ := List.append_inj (List.append_cancel_left rest)
    ((width _ month).trans (width _ otherMonth).symm)
  have sameYear := Pattern.yearText_zeros_injective (String.toList_inj.mp years)
  have sameMonth := Numeral.zeroPadded_injective (String.toList_inj.mp months)
  have sameDay := Numeral.zeroPadded_injective
    (String.toList_inj.mp (List.append_cancel_left days))
  cases date
  cases other
  simp_all only

theorem HasFourPlaces.length_text (four : date.HasFourPlaces) :
    date.text.toList.length = 10 := by
  obtain ⟨month, day⟩ := small_of_isValid four.valid
  have fits : date.year.natAbs < 10000 := by
    have begun := four.begun
    have ended := four.ended
    omega
  simp [text, Pattern.yearText_zeros four.begun four.ended,
    Numeral.length_zeroPadded (show 0 < 4 by decide) fits,
    Numeral.length_zeroPadded (show 0 < 2 by decide) month,
    Numeral.length_zeroPadded (show 0 < 2 by decide) day]

/-- Texts of one width can be cut off whatever stands in front of them. -/
theorem append_text_inj (four : date.HasFourPlaces) (also : other.HasFourPlaces)
    {base otherBase : String} :
    otherBase ++ other.text = base ++ date.text ↔ otherBase = base ∧ other = date := by
  constructor
  · intro same
    have letters := congrArg String.toList same
    rw [String.toList_append, String.toList_append] at letters
    obtain ⟨bases, texts⟩ := List.append_inj' letters (also.length_text.trans four.length_text.symm)
    exact ⟨String.toList_inj.mp bases,
      text_injective also.valid four.valid (String.toList_inj.mp texts)⟩
  · rintro ⟨rfl, rfl⟩
    rfl

end Date

end Calendar

theorem Finder.exists_written_of_candidate? {finder : Finder} {record : Record}
    {candidate : Candidate} (found : finder.candidate? record = some candidate) :
    ∃ written, Calendar.Instant.read written = some candidate.endDate := by
  unfold Finder.candidate? at found
  split at found
  · rename_i written _
    obtain ⟨endDate, read, rfl⟩ := Option.map_eq_some_iff.mp found
    exact ⟨written, read⟩
  · cases found

namespace Namer

open Calendar

variable {namer : Namer}

theorem ofText_days : ofText "%Y-%m-%d" = .ok ⟨Pattern.days⟩ := by
  rw [ofText, Pattern.read_days, if_neg (by decide)]

theorem resolve_days (base : String) {date : Date} (valid : date.isValid = true) :
    resolve ⟨Pattern.days⟩ base (some date) = some (base ++ date.text) := by
  rw [resolve, suffix, Date.format_days valid, Option.map_some]

/-- Where destinations are named for days, the name of a destination tells its live index and its
day, as long as years have four places, and it never is the name of a live index itself. Two roots
of one index go to the same destination when they finished in one bucket and only then, whatever
year that was. -/
theorem daily_destinations_are_apart (daily : ofText "%Y-%m-%d" = .ok namer) :
    (∀ base date, date.HasFourPlaces →
      ∃ name, namer.resolve base (some date) = some name ∧ namer.resolve base none ≠ some name ∧
        ∀ otherBase other, other.HasFourPlaces →
          (namer.resolve otherBase (some other) = some name ↔ otherBase = base ∧ other = date)) ∧
    ∀ (finder : Finder) (record another : Record) (candidate other : Candidate),
      finder.offset.natAbs < 86400 → finder.candidate? record = some candidate →
      finder.candidate? another = some other →
      ∃ date otherDate name otherName,
        finder.rollover.bucket candidate.endDate finder.offset = some date ∧
        finder.rollover.bucket other.endDate finder.offset = some otherDate ∧
        namer.resolve finder.root.index (some date) = some name ∧
        namer.resolve finder.root.index (some otherDate) = some otherName ∧
        (name = otherName ↔ date = otherDate) := by
  cases ofText_days.symm.trans daily
  constructor
  · intro base date four
    refine ⟨base ++ date.text, resolve_days base four.valid, ?_, ?_⟩
    · intro same
      have letters := congrArg (List.length ∘ String.toList) (Option.some.inj same)
      simp only [Function.comp_apply, String.toList_append, List.length_append,
        four.length_text] at letters
      omega
    · intro otherBase other also
      rw [resolve_days otherBase also.valid, Option.some.injEq, Date.append_text_inj four also]
  · intro finder record another candidate other near found alsoFound
    obtain ⟨written, read⟩ := Finder.exists_written_of_candidate? found
    obtain ⟨otherWritten, otherRead⟩ := Finder.exists_written_of_candidate? alsoFound
    obtain ⟨date, bucketed⟩ := Option.isSome_iff_exists.mp
      (Rollover.isSome_bucket read finder.rollover near)
    obtain ⟨otherDate, alsoBucketed⟩ := Option.isSome_iff_exists.mp
      (Rollover.isSome_bucket otherRead finder.rollover near)
    have valid := Rollover.isValid_of_bucket bucketed
    have alsoValid := Rollover.isValid_of_bucket alsoBucketed
    refine ⟨date, otherDate, _, _, bucketed, alsoBucketed, resolve_days _ valid,
      resolve_days _ alsoValid, ?_⟩
    constructor
    · intro same
      apply Date.text_injective valid alsoValid
      have letters := congrArg String.toList same
      rw [String.toList_append, String.toList_append] at letters
      exact String.toList_inj.mp (List.append_cancel_left letters)
    · rintro rfl
      rfl

/-- A second before midnight and a second behind it. -/
theorem midnight_parts_destinations :
    let finder : Finder := ⟨.standard, 3600, 0, .day, ⟨0, 5, 5, 5⟩⟩
    let ending (time : String) : Record :=
      ⟨"r", finder.root.index, .object [("endDate", .text time)]⟩
    let destination (time : String) : Option String :=
      (finder.candidate? (ending time)).bind fun candidate =>
        (finder.rollover.bucket candidate.endDate finder.offset).bind fun date =>
          resolve ⟨Pattern.days⟩ finder.root.index (some date)
    destination "2024-03-01T23:59:59Z" = some "operate-list-view_2024-03-01" ∧
      destination "2024-03-01T23:59:59Z" ≠ destination "2024-03-02T00:00:01Z" ∧
      resolve ⟨Pattern.days⟩ "operate-list-view_202" (some ⟨4, 3, 1⟩) ≠
        some "operate-list-view_2024-03-01" := by
  intro finder ending destination
  have before : finder.candidate? (ending "2024-03-01T23:59:59Z") =
      some ⟨"r", 1709337599, 0⟩ := by decide +kernel
  have behind : finder.candidate? (ending "2024-03-02T00:00:01Z") =
      some ⟨"r", 1709337601, 0⟩ := by decide +kernel
  obtain ⟨named, apart⟩ := daily_destinations_are_apart ofText_days
  obtain ⟨date, otherDate, name, otherName, dated, alsoDated, resolved, alsoResolved, same⟩ :=
    apart finder _ _ _ _ (by decide) before behind
  have first : Rollover.day.bucket ⟨1709337599, 0⟩ 0 = some ⟨2024, 3, 1⟩ := by decide +kernel
  have second : Rollover.day.bucket ⟨1709337601, 0⟩ 0 = some ⟨2024, 3, 2⟩ := by decide +kernel
  cases first.symm.trans dated
  cases second.symm.trans alsoDated
  have four : Date.HasFourPlaces ⟨2024, 3, 1⟩ := ⟨by decide, by decide, by decide⟩
  have written : name = "operate-list-view_2024-03-01" := by
    rw [resolve_days _ four.valid, Option.some.injEq] at resolved
    rw [← resolved]
    decide +kernel
  subst written
  have here : destination "2024-03-01T23:59:59Z" = some "operate-list-view_2024-03-01" := by
    simp only [destination, before, Option.bind_some, dated]
    exact resolved
  have there : destination "2024-03-02T00:00:01Z" = some otherName := by
    simp only [destination, behind, Option.bind_some, alsoDated]
    exact alsoResolved
  refine ⟨here, ?_, ?_⟩
  · rw [here, there]
    intro equal
    exact absurd (same.mp (Option.some.inj equal)) (by decide)
  · obtain ⟨known, alsoKnown, _, unique⟩ := named "operate-list-view_" ⟨2024, 3, 1⟩ four
    cases alsoKnown.symm.trans resolved
    intro collides
    have other := (unique _ ⟨4, 3, 1⟩ ⟨by decide, by decide, by decide⟩).mp collides
    exact absurd other.1 (by decide)

end Namer

end Archivist
