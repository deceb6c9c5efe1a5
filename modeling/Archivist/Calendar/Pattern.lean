import Archivist.Calendar.Date

set_option autoImplicit false

namespace Archivist.Calendar

/-- What fills the room in front of a number. -/
inductive Filler where
  | zeros
  | blanks
  | nothing
deriving Repr, DecidableEq

inductive DatePart where
  | year
  | century
  | yearOfCentury
  | isoYear
  | isoYearOfCentury
  | quarter
  | month
  | day
  | weekFromSunday
  | weekFromMonday
  | isoWeek
  | weekdayFromSunday
  | weekdayFromMonday
  | ordinal
deriving Repr, DecidableEq

inductive NamePart where
  | monthName
  | shortMonthName
  | weekdayName
  | shortWeekdayName
deriving Repr, DecidableEq

inductive PatternItem where
  | literal (text : List Char)
  | part (part : DatePart) (filler : Filler)
  | name (part : NamePart)
  /-- A number of a time of day or a zone, which takes a filler as well. -/
  | clockNumber
  | clockText
deriving Repr, DecidableEq

abbrev Pattern := List PatternItem

namespace Pattern

private def zero (part : DatePart) : PatternItem := .part part .zeros

def ofLetter : Char → Option Pattern
  | 'A' => some [.name .weekdayName]
  | 'a' => some [.name .shortWeekdayName]
  | 'B' => some [.name .monthName]
  | 'b' | 'h' => some [.name .shortMonthName]
  | 'C' => some [zero .century]
  | 'D' | 'x' =>
    some [zero .month, .literal ['/'], zero .day, .literal ['/'], zero .yearOfCentury]
  | 'F' => some [zero .year, .literal ['-'], zero .month, .literal ['-'], zero .day]
  | 'G' => some [zero .isoYear]
  | 'g' => some [zero .isoYearOfCentury]
  | 'U' => some [zero .weekFromSunday]
  | 'V' => some [zero .isoWeek]
  | 'W' => some [zero .weekFromMonday]
  | 'Y' => some [zero .year]
  | 'y' => some [zero .yearOfCentury]
  | 'd' => some [zero .day]
  | 'e' => some [.part .day .blanks]
  | 'j' => some [zero .ordinal]
  | 'm' => some [zero .month]
  | 'q' => some [.part .quarter .nothing]
  | 'u' => some [.part .weekdayFromMonday .nothing]
  | 'w' => some [.part .weekdayFromSunday .nothing]
  | 'v' =>
    some [.part .day .blanks, .literal ['-'], .name .shortMonthName, .literal ['-'], zero .year]
  | 'n' => some [.literal ['\n']]
  | 't' => some [.literal ['\t']]
  | '%' => some [.literal ['%']]
  | 'H' | 'I' | 'M' | 'S' | 'f' | 'k' | 'l' | 's' => some [.clockNumber]
  | 'P' | 'p' | 'Z' | 'z' | '+' => some [.clockText]
  | 'R' | 'T' | 'X' | 'r' | 'c' => some [.clockText, .clockText]
  | _ => none

def refill (filler : Filler) : Pattern → Option Pattern
  | [.part part _] => some [.part part filler]
  | [.clockNumber] => some [.clockNumber]
  | _ => none

/-- One specifier after its percent sign, and how many characters it has. -/
def readSpecifier : List Char → Option (Pattern × Nat)
  | '-' :: letter :: _ => ((ofLetter letter).bind (refill .nothing)).map (·, 2)
  | '0' :: letter :: _ => ((ofLetter letter).bind (refill .zeros)).map (·, 2)
  | '_' :: letter :: _ => ((ofLetter letter).bind (refill .blanks)).map (·, 2)
  | '#' :: 'z' :: _ => some ([.clockText], 2)
  | ':' :: ':' :: ':' :: 'z' :: _ => some ([.clockText], 4)
  | ':' :: ':' :: 'z' :: _ => some ([.clockText], 3)
  | ':' :: 'z' :: _ => some ([.clockText], 2)
  | '.' :: 'f' :: _ => some ([.clockText], 2)
  | '.' :: digit :: 'f' :: _ => if digit ∈ ['3', '6', '9'] then some ([.clockText], 3) else none
  | digit :: 'f' :: _ =>
    if digit ∈ ['3', '6', '9'] then some ([.clockText], 2) else (ofLetter digit).map (·, 1)
  | letter :: _ => (ofLetter letter).map (·, 1)
  | [] => none

/-- Reads a whole pattern; none when a specifier is unknown or cut off. -/
def readItems (text : List Char) : Option Pattern :=
  match text with
  | [] => some []
  | '%' :: rest =>
    match readSpecifier rest with
    | none => none
    | some (items, size) => (readItems (rest.drop size)).map (items ++ ·)
  | character :: rest => (readItems rest).map (.literal [character] :: ·)
termination_by text.length

def read (text : String) : Option Pattern := readItems text.toList

private def padded (width : Nat) (filler : Filler) (text : String) : String :=
  match filler with
  | .zeros => Numeral.padLeft width '0' text
  | .blanks => Numeral.padLeft width ' ' text
  | .nothing => text

/-- A number below 256 with two places. From 100 on the first place is the character that many
places after the digit zero. -/
def twoPlaces (value : Nat) (filler : Filler) : String :=
  let last := Nat.digitChar (value % 10)
  match value / 10, filler with
  | 0, .nothing => String.ofList [last]
  | 0, .blanks => String.ofList [' ', last]
  | tens, _ => String.ofList [Char.ofNat ('0'.toNat + tens), last]

/-- Years from 0 to 9999 have four places; others carry a sign. -/
def yearText (year : Int) (filler : Filler) : String :=
  if 0 ≤ year ∧ year ≤ 9999 then padded 4 filler (Numeral.ofNat year.natAbs)
  else
    let sign := if year < 0 then "-" else "+"
    match filler with
    | .zeros => sign ++ Numeral.zeroPadded 4 year.natAbs
    | _ => padded 5 filler (sign ++ Numeral.ofNat year.natAbs)

/-- The last eight bits of a number. -/
private def lowByte (value : Int) : Nat := (value % 256).toNat

def partText (date : Date) (filler : Filler) : DatePart → String
  | .year => yearText date.year filler
  | .century => twoPlaces (lowByte (date.year / 100)) filler
  | .yearOfCentury => twoPlaces (date.year % 100).toNat filler
  | .isoYear => yearText date.isoWeek.year filler
  | .isoYearOfCentury => twoPlaces (date.isoWeek.year % 100).toNat filler
  | .quarter => Numeral.ofNat date.quarter
  | .month => twoPlaces date.month filler
  | .day => twoPlaces date.day filler
  | .weekFromSunday => twoPlaces (date.weeksFrom 6) filler
  | .weekFromMonday => twoPlaces (date.weeksFrom 0) filler
  | .isoWeek => twoPlaces date.isoWeek.week filler
  | .weekdayFromSunday => Numeral.ofNat date.weekday.fromSunday
  | .weekdayFromMonday => Numeral.ofNat (date.weekday.fromMonday + 1)
  | .ordinal => padded 3 filler (Numeral.ofNat date.ordinal)

def nameText (date : Date) : NamePart → String
  | .monthName => Date.monthName date.month
  | .shortMonthName => Date.shortMonthName date.month
  | .weekdayName => date.weekday.longName
  | .shortWeekdayName => date.weekday.shortName

def itemText (date : Date) : PatternItem → Option String
  | .literal text => some (String.ofList text)
  | .part part filler => some (partText date filler part)
  | .name part => some (nameText date part)
  | .clockNumber | .clockText => none

/-- The date in the pattern's words; none when the pattern asks for more than a date. -/
def format (pattern : Pattern) (date : Date) : Option String :=
  match pattern with
  | [] => some ""
  | item :: rest =>
    match itemText date item, format rest date with
    | some text, some others => some (text ++ others)
    | _, _ => none

end Pattern

end Archivist.Calendar
