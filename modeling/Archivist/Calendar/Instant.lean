import Archivist.Calendar.Date

set_option autoImplicit false

namespace Archivist.Calendar

def secondsPerDay : Int := 86400

def nanosPerSecond : Nat := 1000000000

/-- Seconds since 1970-01-01T00:00:00Z and nanoseconds on top, below two thousand million. -/
structure Instant where
  seconds : Int
  nanos : Nat
deriving Repr, DecidableEq

namespace Instant

def ofSeconds (seconds : Int) : Instant := ⟨seconds, 0⟩

/-- Earlier seconds first, then fewer nanoseconds. -/
def order (left right : Instant) : Ordering :=
  (compare left.seconds right.seconds).then (compare left.nanos right.nanos)

def isAtMost (left right : Instant) : Bool :=
  left.seconds < right.seconds || (left.seconds = right.seconds && left.nanos ≤ right.nanos)

theorem isAtMost_iff {left right : Instant} : left.isAtMost right = true ↔
    left.seconds < right.seconds ∨ (left.seconds = right.seconds ∧ left.nanos ≤ right.nanos) := by
  simp only [isAtMost, Bool.or_eq_true, Bool.and_eq_true, decide_eq_true_eq]

def inRange (instant : Instant) : Bool :=
  (Date.ofDayNumber? (instant.seconds / secondsPerDay)).isSome

/-- Brings a fraction that lies at most one second outside of its second back into it. -/
private def carry (seconds fraction : Int) : Instant :=
  if fraction < 0 then ⟨seconds - 1, (fraction + nanosPerSecond).toNat⟩
  else if nanosPerSecond ≤ fraction then ⟨seconds + 1, (fraction - nanosPerSecond).toNat⟩
  else ⟨seconds, fraction.toNat⟩

/-- Moves an instant by seconds and nanoseconds of one sign. A leap second counts as no time of its
own once the way leads out of it. -/
def shift (instant : Instant) (seconds nanos : Int) : Option Instant :=
  let held : Int := instant.nanos
  let moved :=
    if held < nanosPerSecond then carry (instant.seconds + seconds) (held + nanos)
    else if 0 < seconds ∨ (0 < nanos ∧ 2 * nanosPerSecond ≤ held + nanos) then
      carry (instant.seconds + seconds) (held - nanosPerSecond + nanos)
    else if seconds < 0 then
      carry (instant.seconds + 1 + seconds) (held - nanosPerSecond + nanos)
    else ⟨instant.seconds, (held + nanos).toNat⟩
  if moved.inRange then some moved else none

theorem nanos_carry_lt {seconds fraction : Int} (least : -nanosPerSecond ≤ fraction)
    (most : fraction < 2 * nanosPerSecond) : (carry seconds fraction).nanos < nanosPerSecond := by
  have billion : nanosPerSecond = 1000000000 := rfl
  unfold carry
  split
  · simp only
    omega
  · split <;> simp only <;> omega

private theorem seconds_carry (seconds fraction : Int) (within : 0 ≤ fraction)
    (below : fraction < nanosPerSecond) : (carry seconds fraction).seconds = seconds := by
  rw [carry, if_neg (Int.not_lt.mpr within), if_neg (Int.not_le.mpr below)]

/-- Whole seconds move an instant by as many; it may lie a second later where the way leads back out
of a leap second. -/
theorem exists_shift (instant : Instant) (seconds : Int)
    (whole : instant.nanos < 2 * nanosPerSecond)
    (reachable : ∀ other, instant.seconds + seconds ≤ other →
      other ≤ instant.seconds + seconds + 1 →
        (Date.ofDayNumber? (other / secondsPerDay)).isSome = true) :
    ∃ moved, instant.shift seconds 0 = some moved := by
  have lands (moved : Instant) (later : instant.seconds + seconds ≤ moved.seconds)
      (near : moved.seconds ≤ instant.seconds + seconds + 1) :
      ∃ there, (if moved.inRange then some moved else none) = some there :=
    ⟨moved, if_pos (reachable moved.seconds later near)⟩
  have billion : nanosPerSecond = 1000000000 := rfl
  rw [shift]
  simp only [Int.add_zero, Int.lt_irrefl, false_and, or_false]
  by_cases ordinary : (instant.nanos : Int) < nanosPerSecond
  · rw [if_pos ordinary]
    have same := seconds_carry (instant.seconds + seconds) instant.nanos
      (Int.natCast_nonneg _) ordinary
    exact lands _ (by omega) (by omega)
  · rw [if_neg ordinary]
    have within : 0 ≤ (instant.nanos : Int) - nanosPerSecond := by omega
    have below : (instant.nanos : Int) - nanosPerSecond < nanosPerSecond := by omega
    by_cases onward : 0 < seconds
    · rw [if_pos onward]
      have same := seconds_carry (instant.seconds + seconds) _ within below
      exact lands _ (by omega) (by omega)
    · rw [if_neg onward]
      by_cases back : seconds < 0
      · rw [if_pos back]
        have same := seconds_carry (instant.seconds + 1 + seconds) _ within below
        exact lands _ (by omega) (by omega)
      · rw [if_neg back]
        exact lands _ (by simp only; omega) (by simp only; omega)

def longestSpan : Nat := Nat.pow 2 63 - 1

def shiftMillis (instant : Instant) (millis : Int) : Option Instant :=
  if longestSpan < millis.natAbs then none
  else instant.shift (millis.tdiv 1000) (millis.tmod 1000 * 1000000)

/-- The date at a fixed offset from universal time. -/
def localDate (instant : Instant) (offset : Int) : Option Date :=
  Date.ofDayNumber? ((instant.seconds + offset) / secondsPerDay)

private def yearText (year : Int) : String :=
  if 0 ≤ year ∧ year ≤ 9999 then Numeral.zeroPadded 4 year.natAbs
  else (if year < 0 then "-" else "+") ++ Numeral.zeroPadded 4 year.natAbs

/-- The text with milliseconds and `Z`; further digits are cut off. A leap second is second 60. -/
def text (instant : Instant) : String :=
  let date := Date.ofDayNumber (instant.seconds / secondsPerDay)
  let clock := (instant.seconds % secondsPerDay).toNat
  let leap := nanosPerSecond ≤ instant.nanos
  let second := if leap then clock % 60 + 1 else clock % 60
  let nanos := if leap then instant.nanos - nanosPerSecond else instant.nanos
  yearText date.year ++ "-" ++ Numeral.zeroPadded 2 date.month
    ++ "-" ++ Numeral.zeroPadded 2 date.day
    ++ "T" ++ Numeral.zeroPadded 2 (clock / 3600) ++ ":" ++ Numeral.zeroPadded 2 (clock / 60 % 60)
    ++ ":" ++ Numeral.zeroPadded 2 second ++ "." ++ Numeral.zeroPadded 3 (nanos / 1000000) ++ "Z"

def fixedDigits : Nat → List Char → Option (Nat × List Char)
  | count, text =>
    let run := text.take count
    if run.length = count ∧ run.all Numeral.isDigit then some (Numeral.value run, text.drop count)
    else none

private def expect (allowed : List Char) : List Char → Option (List Char)
  | character :: rest => if character ∈ allowed then some rest else none
  | [] => none

/-- The digits after a point as nanoseconds; those past the ninth are dropped. -/
private def readFraction (text : List Char) : Option (Nat × List Char) :=
  match text with
  | '.' :: rest =>
    let run := rest.takeWhile Numeral.isDigit
    if run.isEmpty then none
    else
      let kept := run.take 9
      some (Numeral.value kept * Nat.pow 10 (9 - kept.length), rest.dropWhile Numeral.isDigit)
  | _ => some (0, text)

/-- `Z`, or a sign with hours and minutes, as seconds east of universal time. -/
private def readOffset (text : List Char) : Option Int :=
  match text with
  | ['Z'] | ['z'] => some 0
  | sign :: rest => do
    let direction ← if sign = '+' then some (1 : Int)
      else if sign = '-' ∨ sign = Char.ofNat 0x2212 then some (-1)
      else none
    let (hours, rest) ← fixedDigits 2 rest
    let rest ← expect [':'] rest
    let (minutes, rest) ← fixedDigits 2 rest
    if rest = [] ∧ hours ≤ 23 ∧ minutes ≤ 59 then
      some (direction * ((hours * 3600 + minutes * 60 : Nat) : Int))
    else none
  | [] => none

/-- Reads a date, `T`, a time of day and an offset, with nothing before or after. Second 60 is taken
at any minute. -/
def read (text : String) : Option Instant := do
  let (year, rest) ← fixedDigits 4 text.toList
  let rest ← expect ['-'] rest
  let (month, rest) ← fixedDigits 2 rest
  let rest ← expect ['-'] rest
  let (day, rest) ← fixedDigits 2 rest
  let rest ← expect ['T', 't', ' '] rest
  let (hour, rest) ← fixedDigits 2 rest
  let rest ← expect [':'] rest
  let (minute, rest) ← fixedDigits 2 rest
  let rest ← expect [':'] rest
  let (second, rest) ← fixedDigits 2 rest
  let (nanos, rest) ← readFraction rest
  let offset ← readOffset rest
  let date : Date := ⟨year, month, day⟩
  if date.isValid ∧ hour ≤ 23 ∧ minute ≤ 59 ∧ second ≤ 60 then
    let leap := if second = 60 then 1 else 0
    let clock : Nat := hour * 3600 + minute * 60 + second - leap
    some ⟨date.dayNumber * secondsPerDay + clock - offset, nanos + leap * nanosPerSecond⟩
  else none

theorem fixedDigits_lt {count number : Nat} {text rest : List Char}
    (digits : fixedDigits count text = some (number, rest)) : number < Nat.pow 10 count := by
  simp only [fixedDigits] at digits
  split at digits
  · rename_i run
    cases digits
    have below := Numeral.value_lt (text.take count) run.2
    rwa [run.1] at below
  · cases digits

theorem yearText_of_fourPlaces {year : Int} (begun : 0 ≤ year) (ended : year ≤ 9999) :
    yearText year = Numeral.zeroPadded 4 year.natAbs :=
  if_pos ⟨begun, ended⟩

theorem expect_of_mem {allowed : List Char} {character : Char} (member : character ∈ allowed)
    (rest : List Char) : expect allowed (character :: rest) = some rest :=
  if_pos member

theorem readFraction_digits {digits : List Char} {next : Char} (written : digits ≠ [])
    (all : digits.all Numeral.isDigit = true) (few : digits.length ≤ 9)
    (ends : Numeral.isDigit next = false) (rest : List Char) :
    readFraction ('.' :: (digits ++ next :: rest)) =
      some (Numeral.value digits * Nat.pow 10 (9 - digits.length), next :: rest) := by
  have run : (digits ++ next :: rest).takeWhile Numeral.isDigit = digits := by
    rw [List.takeWhile_append_of_pos (List.all_eq_true.mp all), List.takeWhile_cons, ends]
    exact List.append_nil digits
  have left : (digits ++ next :: rest).dropWhile Numeral.isDigit = next :: rest := by
    rw [List.dropWhile_append_of_pos (List.all_eq_true.mp all), List.dropWhile_cons, ends]
    rfl
  simp only [readFraction, run, left, List.isEmpty_iff, written, ↓reduceIte,
    List.take_of_length_le few]

theorem readFraction_lt {text rest : List Char} {nanos : Nat}
    (fraction : readFraction text = some (nanos, rest)) : nanos < nanosPerSecond := by
  unfold readFraction at fraction
  split at fraction
  · rename_i text
    simp only [Option.ite_none_left_eq_some, Option.some.injEq, Prod.mk.injEq] at fraction
    obtain ⟨_, rfl, _⟩ := fraction
    let kept := (text.takeWhile Numeral.isDigit).take 9
    have digits : kept.all Numeral.isDigit = true :=
      List.all_eq_true.mpr fun digit member =>
        List.all_eq_true.mp List.all_takeWhile digit (List.mem_of_mem_take member)
    have few : kept.length ≤ 9 := List.length_take_le 9 _
    calc
      Numeral.value kept * Nat.pow 10 (9 - kept.length)
        < Nat.pow 10 kept.length * Nat.pow 10 (9 - kept.length) :=
          Nat.mul_lt_mul_of_pos_right (Numeral.value_lt kept digits) (Nat.pow_pos (by decide))
      _ = Nat.pow 10 9 := by
          rw [Nat.pow_eq, Nat.pow_eq, ← Nat.pow_add, Nat.add_sub_cancel' few]
      _ = nanosPerSecond := by decide
  · cases fraction
    decide

theorem readOffset_universal : readOffset ['Z'] = some 0 := rfl

theorem readOffset_bounds {text : List Char} {offset : Int}
    (offered : readOffset text = some offset) :
    -86400 < offset ∧ offset < 86400 ∧ offset % 60 = 0 := by
  unfold readOffset at offered
  split at offered
  · cases offered
    decide
  · cases offered
    decide
  · simp only [Option.bind_eq_bind] at offered
    split at offered
    case isFalse =>
      split at offered
      case isFalse => cases offered
      case isTrue =>
        simp only [Option.bind_some, Option.bind_eq_some_iff] at offered
        obtain ⟨⟨hours, _⟩, _, _, _, ⟨minutes, _⟩, _, given⟩ := offered
        rw [Option.ite_none_right_eq_some, Option.some.injEq] at given
        omega
    case isTrue =>
      simp only [Option.bind_some, Option.bind_eq_some_iff] at offered
      obtain ⟨⟨hours, _⟩, _, _, _, ⟨minutes, _⟩, _, given⟩ := offered
      rw [Option.ite_none_right_eq_some, Option.some.injEq] at given
      omega
  · cases offered

/-- Whatever can be written down lies within a day of the years from 0 to 9999. -/
theorem seconds_of_read {text : String} {instant : Instant} (written : read text = some instant) :
    -720000 * secondsPerDay ≤ instant.seconds ∧ instant.seconds ≤ 3000000 * secondsPerDay := by
  simp only [read, Option.bind_eq_bind, Option.bind_eq_some_iff] at written
  obtain ⟨⟨year, _⟩, years, _, _, ⟨month, _⟩, _, _, _, ⟨day, _⟩, _, _, _, ⟨hour, _⟩, _, _, _,
    ⟨minute, _⟩, _, _, _, ⟨second, _⟩, _, ⟨nanos, _⟩, _, offset, offered, given⟩ := written
  have fourDigits : year < 10000 := fixedDigits_lt years
  have within := readOffset_bounds offered
  simp only at given
  split at given
  · rename_i checked
    cases given
    have days := Date.ordinal_bounds _ checked.1
    simp only [Date.dayNumber, yearStart, secondsPerDay]
    split <;> omega
  · cases given

end Instant

end Archivist.Calendar
