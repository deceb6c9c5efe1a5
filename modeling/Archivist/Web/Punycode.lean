set_option autoImplicit false

/-!
Names of other scripts written in the letters of ASCII: the characters of ASCII come first, and the
others follow as the steps between them, each a number whose digits end where a threshold is not
reached.
-/

namespace Archivist.Web.Punycode

/-- Letters are the digits up to 25, and figures the ten after them. -/
def digit? (character : Char) : Option Nat :=
  if 'a' ≤ character ∧ character ≤ 'z' then some (character.toNat - 'a'.toNat)
  else if 'A' ≤ character ∧ character ≤ 'Z' then some (character.toNat - 'A'.toNat)
  else if '0' ≤ character ∧ character ≤ '9' then some (character.toNat - '0'.toNat + 26)
  else none

/-- A digit below the threshold of its position is the last of its number. -/
def threshold (position bias : Nat) : Nat := max 1 (min 26 (position - bias))

/-- Makes a step smaller until it is below a limit, and counts the positions that takes. The fuel is
the step. -/
def shrink : Nat → Nat → Nat → Nat
  | 0, step, positions => positions + 36 * step / (step + 38)
  | fuel + 1, step, positions =>
    if 455 < step then shrink fuel (step / 35) (positions + 36)
    else positions + 36 * step / (step + 38)

/-- The bias of the next number, from the step before it and the characters so far. -/
def adapt (step count : Nat) (isFirst : Bool) : Nat :=
  let damped := if isFirst then step / 700 else step / 2
  let spread := damped + damped / count
  shrink spread spread 0

def readNumber (bias : Nat) : Nat → Nat → List Char → Option (Nat × List Char)
  | _, _, [] => none
  | position, weight, character :: rest =>
    match digit? character with
    | none => none
    | some digit =>
      let limit := threshold position bias
      if digit < limit then some (digit * weight, rest)
      else
        (readNumber bias (position + 36) (weight * (36 - limit)) rest).map fun read =>
          (digit * weight + read.1, read.2)

/-- Puts in one character for every number. The fuel is the length of the digits. -/
def insertAll : Nat → Nat → Nat → Nat → List Char → List Char → Option (List Char)
  | _, _, _, _, held, [] => some held
  | 0, _, _, _, _, _ => none
  | fuel + 1, bias, point, place, held, digits =>
    match readNumber bias 36 1 digits with
    | none => none
    | some (step, rest) =>
      let count := held.length + 1
      let reached := point + (place + step) / count
      let next := (place + step) % count
      if reached.isValidChar then
        insertAll fuel (adapt step count (place = 0)) reached (next + 1)
          (held.take next ++ Char.ofNat reached :: held.drop next) rest
      else none

/-- The name behind its letters; the last hyphen ends the characters of ASCII. -/
def decode (text : List Char) : Option (List Char) :=
  let digits := (text.reverse.takeWhile (· ≠ '-')).reverse
  let plain := text.take (text.length - digits.length - 1)
  if plain.all fun character => character.toNat < 128 then
    insertAll digits.length 72 128 0 plain digits
  else none

end Archivist.Web.Punycode
