set_option autoImplicit false

namespace Archivist.Text

/-- What is left of a text after a part of it was read. -/
abbrev Rest := List Char

def dropWord : List Char → List Char → Option Rest
  | [], rest => some rest
  | _ :: _, [] => none
  | expected :: word, found :: rest => if expected = found then dropWord word rest else none

/-- Whether a number has a minus sign, and what stands behind its sign. -/
def unsigned : List Char → Bool × Rest
  | '+' :: rest => (false, rest)
  | '-' :: rest => (true, rest)
  | rest => (false, rest)

def hexDigit? (character : Char) : Option Nat :=
  if '0' ≤ character ∧ character ≤ '9' then some (character.toNat - 48)
  else if 'a' ≤ character ∧ character ≤ 'f' then some (character.toNat - 87)
  else if 'A' ≤ character ∧ character ≤ 'F' then some (character.toNat - 55)
  else none

/-- A number in as many hexadecimal digits as asked for. -/
def hexNumber? (count : Nat) (text : List Char) : Option (Nat × Rest) :=
  let digits := (text.take count).filterMap hexDigit?
  if digits.length = count then
    some (digits.foldl (fun total digit => total * 16 + digit) 0, text.drop count)
  else none

def codePoint? (count : Nat) (text : List Char) : Option (Char × Rest) :=
  (hexNumber? count text).bind fun (point, rest) =>
    if point.isValidChar then some (Char.ofNat point, rest) else none

/-- The parts of a text between the occurrences of a character. -/
def splitAt (mark : Char) (text : List Char) : List (List Char) :=
  text.foldr (fun character parts =>
    if character = mark then [] :: parts
    else
      match parts with
      | [] => [[character]]
      | part :: rest => (character :: part) :: rest) [[]]

def occurs (part : List Char) : List Char → Bool
  | [] => part.isEmpty
  | character :: rest => part.isPrefixOf (character :: rest) || occurs part rest

def isWithin (part text : String) : Bool := occurs part.toList text.toList

def isPlainBlank (character : Char) : Bool :=
  character = ' ' || character = '\t' || character = '\n' || character = '\r'
    || character = Char.ofNat 12

/-- The characters with the property White_Space. -/
def isBlank (character : Char) : Bool :=
  let point := character.toNat
  (9 ≤ point && point ≤ 13) || point = 0x20 || point = 0x85 || point = 0xA0 || point = 0x1680
    || (0x2000 ≤ point && point ≤ 0x200A) || point = 0x2028 || point = 0x2029 || point = 0x202F
    || point = 0x205F || point = 0x3000

/-- A text without the blanks at either end. -/
def trim (text : List Char) : List Char :=
  ((text.dropWhile isBlank).reverse.dropWhile isBlank).reverse

end Archivist.Text
