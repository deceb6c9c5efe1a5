import Archivist.Proofs.Calendar.Daily

set_option autoImplicit false

namespace Archivist.Calendar

def nanosPerMilli : Nat := 1000000

namespace Instant

/-- A clock shows less than a second on top of whole ones, or less than two in a leap second, which
comes at the end of a minute. Reading and moving give no other instants (`isOnClock_of_read`,
`isOnClock_of_shift`). -/
structure IsOnClock (instant : Instant) : Prop where
  fraction : instant.nanos < 2 * nanosPerSecond
  leap : nanosPerSecond ≤ instant.nanos → instant.seconds % 60 = 59

def floorMillis (instant : Instant) : Instant :=
  ⟨instant.seconds, instant.nanos / nanosPerMilli * nanosPerMilli⟩

/-- An instant is not later than another one in the same second, and less than a millisecond lies
between them. -/
structure IsShortlyBefore (instant later : Instant) : Prop where
  second : instant.seconds = later.seconds
  before : instant.nanos ≤ later.nanos
  near : later.nanos < instant.nanos + nanosPerMilli

variable {instant moved later : Instant} {text : String}

section Clocks

theorem isOnClock_of_lt (ordinary : instant.nanos < nanosPerSecond) : instant.IsOnClock :=
  ⟨by omega, fun late => absurd late (Nat.not_le.mpr ordinary)⟩

/-- What can be written down may be on a clock: second 60 is one more than second 59 of a minute,
wherever that minute is. -/
theorem isOnClock_of_read (written : read text = some instant) : instant.IsOnClock := by
  have billion : nanosPerSecond = 1000000000 := rfl
  simp only [read, Option.bind_eq_bind, Option.bind_eq_some_iff] at written
  obtain ⟨⟨year, _⟩, _, _, _, ⟨month, _⟩, _, _, _, ⟨day, _⟩, _, _, _, ⟨hour, _⟩, _, _, _,
    ⟨minute, _⟩, _, _, _, ⟨second, _⟩, _, ⟨nanos, _⟩, fraction, offset, offered, given⟩ := written
  have below := readFraction_lt fraction
  obtain ⟨_, _, minutes⟩ := readOffset_bounds offered
  simp only at given
  rw [Option.ite_none_right_eq_some, Option.some.injEq] at given
  obtain ⟨_, rfl⟩ := given
  by_cases leap : second = 60
  · subst leap
    constructor <;> simp only [↓reduceIte, secondsPerDay] <;> omega
  · constructor <;> simp only [leap, ↓reduceIte, secondsPerDay] <;> omega

/-- What is on a clock stays on it: only the way within a leap second leads to a leap second. -/
theorem isOnClock_of_shift {seconds nanos : Int} (onClock : instant.IsOnClock)
    (small : nanos.natAbs < nanosPerSecond) (shifted : instant.shift seconds nanos = some moved) :
    moved.IsOnClock := by
  obtain ⟨fraction, leap⟩ := onClock
  simp only [shift, Option.ite_none_right_eq_some, Option.some.injEq] at shifted
  obtain ⟨_, rfl⟩ := shifted
  split
  · exact isOnClock_of_lt (nanos_carry_lt (by omega) (by omega))
  · split
    · exact isOnClock_of_lt (nanos_carry_lt (by omega) (by omega))
    · split
      · exact isOnClock_of_lt (nanos_carry_lt (by omega) (by omega))
      · exact ⟨by simp only; omega, fun late => leap (by omega)⟩

end Clocks

section Milliseconds

theorem isAtMost_trans (first : instant.isAtMost moved = true)
    (second : moved.isAtMost later = true) : instant.isAtMost later = true := by
  rw [isAtMost_iff] at *
  omega

theorem IsShortlyBefore.isAtMost (shortly : instant.IsShortlyBefore later) :
    instant.isAtMost later = true :=
  isAtMost_iff.mpr (Or.inr ⟨shortly.second, shortly.before⟩)

theorem floorMillis_isShortlyBefore (instant : Instant) :
    instant.floorMillis.IsShortlyBefore instant := by
  constructor <;> simp only [floorMillis, nanosPerMilli] <;> omega

theorem isShortlyBefore_of_floorMillis (least : instant.isAtMost later.floorMillis = false)
    (most : instant.isAtMost later = true) : instant.IsShortlyBefore later := by
  rw [← Bool.not_eq_true, isAtMost_iff] at least
  rw [isAtMost_iff] at most
  have million : nanosPerMilli = 1000000 := rfl
  simp only [floorMillis, million] at least
  constructor <;> omega

end Milliseconds

theorem fixedDigits_zeroPadded {width number : Nat} (positive : 0 < width)
    (fits : number < Nat.pow 10 width) (rest : List Char) :
    fixedDigits width ((Numeral.zeroPadded width number).toList ++ rest) = some (number, rest) := by
  have long := Numeral.length_zeroPadded positive fits
  rw [fixedDigits, List.take_left' long, List.drop_left' long, Numeral.value_zeroPadded,
    if_pos ⟨long, Numeral.all_isDigit_zeroPadded width number⟩]

/-- The numbers that are written down of an instant. A leap second is second 60. -/
structure Stamp where
  date : Date
  hour : Nat
  minute : Nat
  second : Nat
  millis : Nat
deriving Repr, DecidableEq

namespace Stamp

/-- The numbers fit the places they are written in. -/
structure IsValid (stamp : Stamp) : Prop where
  date : stamp.date.HasFourPlaces
  hour : stamp.hour ≤ 23
  minute : stamp.minute ≤ 59
  second : stamp.second ≤ 60
  millis : stamp.millis < 1000

def letters (stamp : Stamp) : List Char :=
  (Numeral.zeroPadded 4 stamp.date.year.natAbs).toList ++ '-' ::
    ((Numeral.zeroPadded 2 stamp.date.month).toList ++ '-' ::
      ((Numeral.zeroPadded 2 stamp.date.day).toList ++ 'T' ::
        ((Numeral.zeroPadded 2 stamp.hour).toList ++ ':' ::
          ((Numeral.zeroPadded 2 stamp.minute).toList ++ ':' ::
            ((Numeral.zeroPadded 2 stamp.second).toList ++ '.' ::
              ((Numeral.zeroPadded 3 stamp.millis).toList ++ ['Z']))))))

def toInstant (stamp : Stamp) : Instant :=
  let leap := if stamp.second = 60 then 1 else 0
  let clock := stamp.hour * 3600 + stamp.minute * 60 + stamp.second - leap
  ⟨stamp.date.dayNumber * secondsPerDay + clock,
    stamp.millis * nanosPerMilli + leap * nanosPerSecond⟩

variable {stamp : Stamp}

/-- Every number takes as many digits as it has places, and the reader asks for as many. -/
theorem read_of_letters (valid : stamp.IsValid) (letters : text.toList = stamp.letters) :
    read text = some stamp.toInstant := by
  obtain ⟨four, hour, minute, second, millis⟩ := valid
  obtain ⟨month, day⟩ := Date.small_of_isValid four.valid
  have year : stamp.date.year.natAbs < 10000 := by
    have begun := four.begun
    have ended := four.ended
    omega
  have two {number : Nat} (small : number < 100) (rest : List Char) :
      fixedDigits 2 ((Numeral.zeroPadded 2 number).toList ++ rest) = some (number, rest) :=
    fixedDigits_zeroPadded (by decide) small rest
  have three := Numeral.length_zeroPadded (show 0 < 3 by decide) millis
  have fraction := readFraction_digits (List.ne_nil_of_length_eq_add_one three)
    (Numeral.all_isDigit_zeroPadded 3 stamp.millis) (by omega)
    (show Numeral.isDigit 'Z' = false by decide) []
  rw [three, Numeral.value_zeroPadded] at fraction
  have date : (⟨stamp.date.year.natAbs, stamp.date.month, stamp.date.day⟩ : Date) =
      stamp.date := by
    rw [Int.natAbs_of_nonneg four.begun]
  rw [read, letters, Stamp.letters, fixedDigits_zeroPadded (by decide) year]
  simp only [Option.bind_eq_bind, Option.bind_some, expect_of_mem, List.mem_cons, List.not_mem_nil,
    or_false, true_or, two month, two day, two (show stamp.hour < 100 by omega),
    two (show stamp.minute < 100 by omega), two (show stamp.second < 100 by omega), fraction,
    readOffset_universal, date]
  rw [if_pos ⟨four.valid, hour, minute, second⟩, Int.sub_zero]
  rfl

end Stamp

def stamp (instant : Instant) : Stamp :=
  let clock := (instant.seconds % secondsPerDay).toNat
  let leap := nanosPerSecond ≤ instant.nanos
  { date := Date.ofDayNumber (instant.seconds / secondsPerDay)
    hour := clock / 3600
    minute := clock / 60 % 60
    second := if leap then clock % 60 + 1 else clock % 60
    millis := (if leap then instant.nanos - nanosPerSecond else instant.nanos) / nanosPerMilli }

theorem toList_text (begun : 0 ≤ instant.year) (ended : instant.year ≤ 9999) :
    instant.text.toList = instant.stamp.letters := by
  have year : (Date.ofDayNumber (instant.seconds / secondsPerDay)).year = instant.year := rfl
  have dash : "-".toList = ['-'] := rfl
  have time : "T".toList = ['T'] := rfl
  have colon : ":".toList = [':'] := rfl
  have point : ".".toList = ['.'] := rfl
  have zone : "Z".toList = ['Z'] := rfl
  rw [Instant.text, year, yearText_of_fourPlaces begun ended]
  simp only [String.toList_append, dash, time, colon, point, zone, List.append_assoc,
    List.cons_append, List.nil_append, Stamp.letters, stamp, year, nanosPerMilli]

theorem isValid_stamp (onClock : instant.IsOnClock) (begun : 0 ≤ instant.year)
    (ended : instant.year ≤ 9999) : instant.stamp.IsValid := by
  have fraction := onClock.fraction
  have clock : (instant.seconds % secondsPerDay).toNat < 86400 := by
    simp only [secondsPerDay]
    omega
  simp only [nanosPerSecond] at fraction
  refine ⟨⟨Date.isValid_ofDayNumber _, begun, ended⟩, ?hour, ?minute, ?second, ?millis⟩
  case hour =>
    simp only [stamp]
    omega
  case minute =>
    simp only [stamp]
    omega
  case second =>
    simp only [stamp, nanosPerSecond]
    by_cases late : 1000000000 ≤ instant.nanos <;> simp only [late, ↓reduceIte] <;> omega
  case millis =>
    simp only [stamp, nanosPerSecond, nanosPerMilli]
    by_cases late : 1000000000 ≤ instant.nanos <;> simp only [late, ↓reduceIte] <;> omega

theorem toInstant_stamp (onClock : instant.IsOnClock) :
    instant.stamp.toInstant = instant.floorMillis := by
  obtain ⟨fraction, leap⟩ := onClock
  simp only [nanosPerSecond] at fraction leap
  obtain ⟨clock, passed⟩ : ∃ clock : Nat, instant.seconds % 86400 = clock :=
    ⟨_, (Int.toNat_of_nonneg (Int.emod_nonneg _ (by decide))).symm⟩
  have whole : instant.seconds = instant.seconds / 86400 * 86400 + clock := by omega
  simp only [Stamp.toInstant, stamp, floorMillis, nanosPerSecond, nanosPerMilli, secondsPerDay,
    Date.dayNumber_ofDayNumber, Instant.mk.injEq, passed, Int.toNat_natCast]
  by_cases late : 1000000000 ≤ instant.nanos
  · -- Days have whole minutes, so the leap second is after second 59 of one.
    have last : clock % 60 + 1 = 60 := by
      have minute := leap late
      omega
    simp only [late, last, ↓reduceIte]
    omega
  · have ordinary : clock % 60 ≠ 60 := by omega
    simp only [late, ordinary, ↓reduceIte]
    omega

/-- Instants are written down to the millisecond, and what is written is read as it was meant. -/
theorem read_text (onClock : instant.IsOnClock) (begun : 0 ≤ instant.year)
    (ended : instant.year ≤ 9999) : read instant.text = some instant.floorMillis := by
  rw [Stamp.read_of_letters (isValid_stamp onClock begun ended) (toList_text begun ended),
    toInstant_stamp onClock]

end Instant

end Archivist.Calendar
