import Archivist.Json.Value
import Archivist.Text

set_option autoImplicit false

/-!
Reading JSON text. A number that is written with a point or an exponent, or that fits no 64-bit
integer, is the real nearest to it. Strings hold no bare control characters and no lone surrogates,
and values nest less than 128 deep.
-/

namespace Archivist.Json

open Text (Rest dropWord)

def skipBlank : List Char → Rest
  | ' ' :: rest | '\n' :: rest | '\t' :: rest | '\r' :: rest => skipBlank rest
  | rest => rest

/-- The character after a backslash; a pair of surrogates is one character. -/
def readEscape : List Char → Option (Char × Rest)
  | '"' :: rest => some ('"', rest)
  | '\\' :: rest => some ('\\', rest)
  | '/' :: rest => some ('/', rest)
  | 'b' :: rest => some (Char.ofNat 8, rest)
  | 'f' :: rest => some (Char.ofNat 12, rest)
  | 'n' :: rest => some ('\n', rest)
  | 'r' :: rest => some ('\r', rest)
  | 't' :: rest => some ('\t', rest)
  | 'u' :: rest =>
    match Text.hexNumber? 4 rest with
    | none => none
    | some (first, afterFirst) =>
      if 0xDC00 ≤ first ∧ first ≤ 0xDFFF then none
      else if 0xD800 ≤ first ∧ first ≤ 0xDBFF then
        match afterFirst with
        | '\\' :: 'u' :: low =>
          match Text.hexNumber? 4 low with
          | none => none
          | some (second, afterSecond) =>
            if 0xDC00 ≤ second ∧ second ≤ 0xDFFF then
              let point := 0x10000 + (first - 0xD800) * 0x400 + (second - 0xDC00)
              some (Char.ofNat point, afterSecond)
            else none
        | _ => none
      else some (Char.ofNat first, afterFirst)
  | _ => none

/-- The rest of a string after its opening quote. The fuel is more than the length of the text. -/
def readString : Nat → List Char → Option (List Char × Rest)
  | 0, _ => none
  | _ + 1, [] => none
  | fuel + 1, character :: rest =>
    if character = '"' then some ([], rest)
    else if character = '\\' then
      match readEscape rest with
      | none => none
      | some (escaped, after) => (readString fuel after).map fun read => (escaped :: read.1, read.2)
    else if character.toNat < 32 then none
    else (readString fuel rest).map fun read => (character :: read.1, read.2)

def startsWithDigit : List Char → Bool
  | character :: _ => Numeral.isDigit character
  | [] => false

/-- The decimal `digits * 10 ^ exponent` as a real; none when it is too large for one. -/
def realOf (negative : Bool) (digits : Nat) (exponent : Int) : Option Number :=
  (Binary64.ofDecimal negative digits exponent).map .real

/-- A whole number that fits a 64-bit integer stays one; `-0` does not. -/
def wholeOf (negative : Bool) (digits : Nat) : Option Number :=
  if negative then
    if digits = 0 ∨ Nat.pow 2 63 < digits then realOf true digits 0
    else some (.integer (-(digits : Int)))
  else if Nat.pow 2 64 ≤ digits then realOf false digits 0
  else some (.integer digits)

/-- The exponent behind the digits of a number, zero when there is none. -/
def readExponent (text : List Char) : Option (Int × Rest) :=
  match text with
  | 'e' :: rest | 'E' :: rest =>
    let (negative, rest) := Text.unsigned rest
    if startsWithDigit rest then
      let size : Int := Numeral.value (rest.takeWhile Numeral.isDigit)
      some (if negative then -size else size, rest.dropWhile Numeral.isDigit)
    else none
  | _ => some (0, text)

/-- The digits behind the point of a number, none when there is no point. -/
def readFraction (text : List Char) : Option (List Char × Rest) :=
  match text with
  | '.' :: rest =>
    if startsWithDigit rest then
      some (rest.takeWhile Numeral.isDigit, rest.dropWhile Numeral.isDigit)
    else none
  | _ => some ([], text)

def goesOn : List Char → Bool
  | '.' :: _ | 'e' :: _ | 'E' :: _ => true
  | _ => false

/-- A number behind its sign. Its whole part does not begin with a zero that could be left out. -/
def readUnsigned (negative : Bool) (text : List Char) : Option (Number × Rest) := do
  let whole := text.takeWhile Numeral.isDigit
  guard (whole ≠ [] ∧ (whole.head? = some '0' → whole.length = 1))
  let afterWhole := text.dropWhile Numeral.isDigit
  let (fraction, afterFraction) ← readFraction afterWhole
  let (exponent, rest) ← readExponent afterFraction
  let number ←
    if goesOn afterWhole then
      realOf negative (Numeral.value (whole ++ fraction)) (exponent - fraction.length)
    else wholeOf negative (Numeral.value whole)
  return (number, rest)

def readNumber : List Char → Option (Number × Rest)
  | '-' :: rest => readUnsigned true rest
  | rest => readUnsigned false rest

mutual

/-- One value. The first number bounds the calls, and is more than twice the length of the text; the
second bounds the nesting. -/
def readValue : Nat → Nat → List Char → Option (Value × Rest)
  | 0, _, _ => none
  | fuel + 1, depth, text =>
    match skipBlank text with
    | [] => none
    | '"' :: rest =>
      (readString (fuel + 1) rest).map fun read => (.text (String.ofList read.1), read.2)
    | '[' :: rest =>
      match depth with
      | 0 | 1 => none
      | depth + 1 =>
        match skipBlank rest with
        | ']' :: after => some (.array [], after)
        | _ => (readItems fuel depth rest).map fun read => (.array read.1, read.2)
    | '\x7b' :: rest =>
      match depth with
      | 0 | 1 => none
      | depth + 1 =>
        match skipBlank rest with
        | '\x7d' :: after => some (.object [], after)
        | _ => (readMembers fuel depth [] rest).map fun read => (.object read.1, read.2)
    | 'n' :: rest => (dropWord "ull".toList rest).map fun after => (.null, after)
    | 't' :: rest => (dropWord "rue".toList rest).map fun after => (.bool true, after)
    | 'f' :: rest => (dropWord "alse".toList rest).map fun after => (.bool false, after)
    | text => (readNumber text).map fun read => (.number read.1, read.2)

def readItems : Nat → Nat → List Char → Option (List Value × Rest)
  | 0, _, _ => none
  | fuel + 1, depth, text =>
    match readValue fuel depth text with
    | none => none
    | some (item, rest) =>
      match skipBlank rest with
      | ',' :: after => (readItems fuel depth after).map fun read => (item :: read.1, read.2)
      | ']' :: after => some ([item], after)
      | _ => none

/-- The members of an object up to its closing brace, added to those already read. -/
def readMembers : Nat → Nat → List (String × Value) → List Char →
    Option (List (String × Value) × Rest)
  | 0, _, _, _ => none
  | fuel + 1, depth, members, text =>
    match skipBlank text with
    | '"' :: rest =>
      match readString (fuel + 1) rest with
      | none => none
      | some (key, rest) =>
        match skipBlank rest with
        | ':' :: rest =>
          match readValue fuel depth rest with
          | none => none
          | some (value, rest) =>
            let members := insertMember (String.ofList key) value members
            match skipBlank rest with
            | ',' :: after => readMembers fuel depth members after
            | '\x7d' :: after => some (members, after)
            | _ => none
        | _ => none
    | _ => none

end

/-- A text that holds one value and nothing else but blanks around it. -/
def read (text : String) : Option Value :=
  let characters := text.toList
  match readValue (2 * characters.length + 2) 128 characters with
  | some (value, rest) => if skipBlank rest = [] then some value else none
  | none => none

end Archivist.Json
