import Archivist.Config.Tree
import Archivist.Text

set_option autoImplicit false

namespace Archivist.Config.Environment

open Text (Rest codePoint? dropWord unsigned)

def skipBlank (text : List Char) : Rest := text.dropWhile Text.isPlainBlank

def isSeparator (character : Char) : Bool :=
  character = ',' || character = '\x7b' || character = '\x7d' || character = '[' || character = ']'

def isKeyCharacter (character : Char) : Bool :=
  character.isAlphanum || character = '_' || character = '-'

def escape? : List Char → Option (Char × Rest)
  | '"' :: rest => some ('"', rest)
  | '\\' :: rest => some ('\\', rest)
  | 'b' :: rest => some (Char.ofNat 8, rest)
  | 'f' :: rest => some (Char.ofNat 12, rest)
  | 'n' :: rest => some ('\n', rest)
  | 'r' :: rest => some ('\r', rest)
  | 't' :: rest => some ('\t', rest)
  | 'u' :: rest => codePoint? 4 rest
  | 'U' :: rest => codePoint? 8 rest
  | _ => none

/-- A string from behind its opening quote; of the control characters it may hold tabs. The fuel is
the length of the text. -/
def readString : Nat → List Char → Option (List Char × Rest)
  | 0, _ => none
  | fuel + 1, text =>
    match text with
    | [] => none
    | '"' :: rest => some ([], rest)
    | '\\' :: rest =>
      match escape? rest with
      | some (character, rest) =>
        (readString fuel rest).map fun read => (character :: read.1, read.2)
      | none => none
    | character :: rest =>
      if character = '\t' ∨ (32 ≤ character.toNat ∧ character.toNat ≠ 127) then
        (readString fuel rest).map fun read => (character :: read.1, read.2)
      else none

/-- A decimal with a point; digits may be left out on one side of it. -/
def isReal (text : List Char) : Bool :=
  let digits := (unsigned text).2
  let whole := digits.takeWhile Numeral.isDigit
  match digits.dropWhile Numeral.isDigit with
  | '.' :: rest =>
    let fraction := rest.takeWhile Numeral.isDigit
    let scale := rest.dropWhile Numeral.isDigit
    (!whole.isEmpty || !fraction.isEmpty) && (scale.isEmpty || isScale scale)
  | _ => false
where
  isScale : List Char → Bool
    | mark :: rest =>
      (mark = 'e' || mark = 'E') && (Numeral.ofDigits? (unsigned rest).2).isSome
    | [] => false

/-- An integer that fits in 64 bits with or without a sign. -/
def integer? (text : List Char) : Option Int :=
  let (negative, digits) := unsigned text
  (Numeral.ofDigits? digits).bind fun value =>
    if negative then (if value ≤ Nat.pow 2 63 then some (-(value : Int)) else none)
    else if value < Nat.pow 2 64 then some value
    else none

/-- A run of characters without separators: a number, or else a text. -/
def scalar (run : List Char) : Tree :=
  let text := Text.trim run
  if text.contains '.' ∧ isReal text then .real
  else
    match integer? text with
    | some value => .integer value
    | none => .text (String.ofList text)

def readKey (text : List Char) : Option (String × Rest) :=
  match text with
  | '"' :: rest =>
    (readString (rest.length + 1) rest).map fun read => (String.ofList read.1, read.2)
  | _ =>
    let run := text.takeWhile isKeyCharacter
    if run.isEmpty then none else some (String.ofList run, text.dropWhile isKeyCharacter)

mutual

/-- One value and the blanks behind it. The fuel is more than the length of the text. -/
def readValue : Nat → List Char → Option (Tree × Rest)
  | 0, _ => none
  | fuel + 1, text =>
    let text := skipBlank text
    match dropWord "true".toList text, dropWord "false".toList text with
    | some rest, _ => some (.bool true, skipBlank rest)
    | none, some rest => some (.bool false, skipBlank rest)
    | none, none =>
      match text with
      | '\x7b' :: rest =>
        (readPairs fuel [] rest).map fun read => (.table read.1, skipBlank read.2)
      | '[' :: rest => (readItems fuel rest).map fun read => (.list read.1, skipBlank read.2)
      | '"' :: rest =>
        (readString (rest.length + 1) rest).map fun read =>
          (.text (String.ofList read.1), skipBlank read.2)
      | '\'' :: rest =>
        match rest with
        | character :: '\'' :: rest => some (.character character, skipBlank rest)
        | _ => none
      | text =>
        some (scalar (text.takeWhile (!isSeparator ·)), text.dropWhile (!isSeparator ·))

def readItems : Nat → List Char → Option (List Tree × Rest)
  | 0, _ => none
  | fuel + 1, text =>
    match text with
    | ']' :: rest => some ([], rest)
    | text =>
      match readValue fuel text with
      | none => none
      | some (item, rest) =>
        match rest with
        | ',' :: rest => (readItems fuel rest).map fun read => (item :: read.1, read.2)
        | ']' :: rest => some ([item], rest)
        | _ => none

/-- The pairs of a table up to its closing brace, added to those already read. -/
def readPairs : Nat → List (String × Tree) → List Char → Option (List (String × Tree) × Rest)
  | 0, _, _ => none
  | fuel + 1, members, text =>
    match text with
    | '\x7d' :: rest => some (members, rest)
    | text =>
      match readKey (skipBlank text) with
      | none => none
      | some (key, rest) =>
        match skipBlank rest with
        | '=' :: rest =>
          match readValue fuel rest with
          | none => none
          | some (value, rest) =>
            let members := Json.insertMember key value members
            match rest with
            | ',' :: rest => readPairs fuel members rest
            | '\x7d' :: rest => some (members, rest)
            | _ => none
        | _ => none

end

def value (text : String) : Tree :=
  let characters := text.toList
  match readValue (2 * characters.length + 2) characters with
  | some (tree, []) => tree
  | _ => .text text

/-- Two underscores next to each other are a point. -/
def joinUnderscores : List Char → List Char
  | '_' :: '_' :: rest => '.' :: joinUnderscores rest
  | character :: rest => character :: joinUnderscores rest
  | [] => []

def path? (name : String) : Option (List String) :=
  match dropWord "arx_".toList ((Text.trim name.toList).map Char.toLower) with
  | none => none
  | some rest =>
    let parts := Text.splitAt '.' (Text.trim (joinUnderscores rest))
    if parts.any List.isEmpty then none else some (parts.map String.ofList)

/-- All settings among the variables, a later one laid over an earlier one. -/
def tree (environment : List (String × String)) : Tree :=
  environment.foldl (fun base (name, text) =>
    match path? name with
    | some path => base.overlay ((value text).nest path)
    | none => base) .empty

end Archivist.Config.Environment
