import Archivist.Calendar.Date
import Archivist.Config.Tree
import Archivist.Text

set_option autoImplicit false

namespace Archivist.Config.Toml

open Text (Rest codePoint? hexDigit? unsigned)

inductive Origin where
  /-- A longer header goes through it. -/
  | implied
  | headed
  | dotted
deriving Repr, DecidableEq

inductive Item where
  | value (tree : Tree)
  | table (origin : Origin) (members : List (String × Item))
  /-- The tables of one list, the last one first. -/
  | tables (elements : List (List (String × Item)))
deriving Inhabited

abbrev Members := List (String × Item)

/-- Follows a path from a table, making the tables that are missing, and changes the table at its
end. Dotted keys do not lead into a table with a header. -/
def descend (dotted : Bool) (change : Origin → Members → Option Members) :
    Origin → Members → List String → Option Members
  | origin, members, [] => change origin members
  | _, members, key :: rest =>
    match Json.memberOf? key members with
    | none =>
      let origin := if dotted then Origin.dotted else .implied
      (descend dotted change origin [] rest).map fun inner =>
        Json.insertMember key (.table origin inner) members
    | some (.table origin inner) =>
      if dotted ∧ origin = .headed then none
      else
        (descend dotted change origin inner rest).map fun inner =>
          Json.insertMember key (.table origin inner) members
    | some (.tables (last :: others)) =>
      (descend dotted change .headed last rest).map fun last =>
        Json.insertMember key (.tables (last :: others)) members
    | some _ => none

/-- Puts a value under a dotted key. A key is given once, and a table that dotted keys made is added
to by dotted keys only. -/
def assign (path : List String) (tree : Tree) (origin : Origin) (members : Members) :
    Option Members :=
  let key := path.getLast?.getD ""
  let tables := path.dropLast
  descend true (fun origin members =>
    if (origin == .dotted) == tables.isEmpty then none
    else if (Json.memberOf? key members).isSome then none
    else some (Json.insertMember key (.value tree) members)) origin members tables

def openTable (path : List String) (root : Members) : Option Members :=
  let key := path.getLast?.getD ""
  descend false (fun _ members =>
    match Json.memberOf? key members with
    | none => some (Json.insertMember key (.table .headed []) members)
    | some (.table .implied inner) => some (Json.insertMember key (.table .headed inner) members)
    | some _ => none) .headed root path.dropLast

def openElement (path : List String) (root : Members) : Option Members :=
  let key := path.getLast?.getD ""
  descend false (fun _ members =>
    match Json.memberOf? key members with
    | none => some (Json.insertMember key (.tables [[]]) members)
    | some (.tables elements) => some (Json.insertMember key (.tables ([] :: elements)) members)
    | some _ => none) .headed root path.dropLast

mutual

def Item.tree : Item → Tree
  | .value tree => tree
  | .table _ members => .table (memberTrees members)
  | .tables elements => .list (elementTrees elements).reverse

def memberTrees : List (String × Item) → List (String × Tree)
  | [] => []
  | (key, item) :: rest => (key, item.tree) :: memberTrees rest

def elementTrees : List (List (String × Item)) → List Tree
  | [] => []
  | members :: rest => .table (memberTrees members) :: elementTrees rest

end

/-! ### Characters and lines -/

def isSpace (character : Char) : Bool := character = ' ' || character = '\t'

/-- Characters that may stand in comments and in strings: all but the control characters. -/
def isPrintable (character : Char) : Bool :=
  character = '\t' || (32 ≤ character.toNat && character.toNat ≠ 127)

def skipSpace (text : List Char) : Rest := text.dropWhile isSpace

def skipComment : List Char → Rest
  | '#' :: rest => rest.dropWhile isPrintable
  | rest => rest

def newline? : List Char → Option Rest
  | '\n' :: rest => some rest
  | '\r' :: '\n' :: rest => some rest
  | _ => none

def lineEnd? (text : List Char) : Option Rest :=
  match skipComment (skipSpace text) with
  | [] => some []
  | rest => newline? rest

/-- Blanks, line ends and comments between the values of a list. The fuel is the length of the
text. -/
def skipLines : Nat → List Char → Rest
  | 0, text => text
  | fuel + 1, text =>
    let rest := skipComment (skipSpace text)
    match newline? rest with
    | some rest => skipLines fuel rest
    | none => rest

/-! ### Strings -/

def escape? : List Char → Option (Char × Rest)
  | 'b' :: rest => some (Char.ofNat 8, rest)
  | 't' :: rest => some ('\t', rest)
  | 'n' :: rest => some ('\n', rest)
  | 'f' :: rest => some (Char.ofNat 12, rest)
  | 'r' :: rest => some ('\r', rest)
  | '"' :: rest => some ('"', rest)
  | '\\' :: rest => some ('\\', rest)
  | 'u' :: rest => codePoint? 4 rest
  | 'U' :: rest => codePoint? 8 rest
  | _ => none

def quote (character : Char) (read : List Char × Rest) : List Char × Rest :=
  (character :: read.1, read.2)

/-- A string on one line, from behind its opening quote. The fuel is the length of the text. -/
def readBasic : Nat → List Char → Option (List Char × Rest)
  | 0, _ => none
  | fuel + 1, text =>
    match text with
    | [] => none
    | '"' :: rest => some ([], rest)
    | '\\' :: rest =>
      match escape? rest with
      | some (character, rest) => (readBasic fuel rest).map (quote character)
      | none => none
    | character :: rest =>
      if isPrintable character then (readBasic fuel rest).map (quote character) else none

def readLiteral : List Char → Option (List Char × Rest)
  | [] => none
  | character :: rest =>
    if character = '\'' then some ([], rest)
    else if isPrintable character then (readLiteral rest).map (quote character)
    else none

/-- The blank space that a backslash at the end of a line takes in. None when the line goes on. -/
def foldLines (text : List Char) : Option Rest :=
  (newline? (skipSpace text)).map fun rest => skipAll rest.length rest
where
  skipAll : Nat → List Char → Rest
    | 0, text => text
    | fuel + 1, text =>
      match newline? (skipSpace text) with
      | some rest => skipAll fuel rest
      | none => skipSpace text

/-- Quotes at the end of a string over several lines: the last three close it, and up to two before
them belong to it. -/
def closing (mark : Char) (text : List Char) : Option (List Char × Rest) :=
  let run := (text.takeWhile (· = mark)).length
  if run < 3 then none
  else
    let kept := min (run - 3) 2
    some (List.replicate kept mark, text.drop (kept + 3))

/-- A string over several lines, from behind its opening quotes. Without escapes when it is
literal. -/
def readLong (mark : Char) : Nat → List Char → Option (List Char × Rest)
  | 0, _ => none
  | fuel + 1, text =>
    match closing mark text with
    | some closed => some closed
    | none =>
      match newline? text with
      | some rest => (readLong mark fuel rest).map (quote '\n')
      | none =>
        match text with
        | [] => none
        | character :: rest =>
          if character = '\\' ∧ mark = '"' then
            match foldLines rest with
            | some rest => readLong mark fuel rest
            | none =>
              match escape? rest with
              | some (character, rest) => (readLong mark fuel rest).map (quote character)
              | none => none
          else if isPrintable character then (readLong mark fuel rest).map (quote character)
          else none

/-- A line end right behind the opening quotes does not count. -/
def dropFirstLine (text : List Char) : Rest := (newline? text).getD text

def readText (text : List Char) : Option (String × Rest) :=
  let read :=
    match text with
    | '"' :: '"' :: '"' :: rest => readLong '"' (rest.length + 1) (dropFirstLine rest)
    | '\'' :: '\'' :: '\'' :: rest => readLong '\'' (rest.length + 1) (dropFirstLine rest)
    | '"' :: rest => readBasic (rest.length + 1) rest
    | '\'' :: rest => readLiteral rest
    | _ => none
  read.map fun read => (String.ofList read.1, read.2)

/-! ### Keys -/

def isBare (character : Char) : Bool :=
  character.isAlphanum || character = '-' || character = '_'

def readKey (text : List Char) : Option (String × Rest) :=
  match text with
  | '"' :: rest =>
    (readBasic (rest.length + 1) rest).map fun read => (String.ofList read.1, read.2)
  | '\'' :: rest => (readLiteral rest).map fun read => (String.ofList read.1, read.2)
  | _ =>
    let run := text.takeWhile isBare
    if run.isEmpty then none else some (String.ofList run, text.dropWhile isBare)

/-- Values nest less deep than this. -/
def deepest : Nat := 80

def longestPath : Nat := 79

/-- Keys with points between them, and blanks around each. The fuel bounds their number. -/
def readPath : Nat → List Char → Option (List String × Rest)
  | 0, _ => none
  | fuel + 1, text =>
    match readKey (skipSpace text) with
    | none => none
    | some (key, rest) =>
      match skipSpace rest with
      | '.' :: rest => (readPath fuel rest).map fun read => (key :: read.1, read.2)
      | rest => some ([key], rest)

/-! ### Numbers and dates -/

/-- Digits with single underscores between them, the underscores taken out. -/
def plainDigits? (isDigit : Char → Bool) : List Char → Option (List Char)
  | [] => none
  | [digit] => if isDigit digit then some [digit] else none
  | digit :: '_' :: rest =>
    if isDigit digit then (plainDigits? isDigit rest).map (digit :: ·) else none
  | digit :: rest =>
    if isDigit digit then (plainDigits? isDigit rest).map (digit :: ·) else none

def valueIn (base : Nat) (digits : List Char) : Nat :=
  digits.foldl (fun total digit => total * base + (hexDigit? digit).getD 0) 0

/-- Decimal digits without a needless zero in front. -/
def wholeDigits? (run : List Char) : Option (List Char) :=
  match plainDigits? Numeral.isDigit run with
  | some ('0' :: _ :: _) => none
  | digits => digits

def inBase? (base : Nat) (run : List Char) : Option Int :=
  let isDigit (character : Char) : Bool :=
    match hexDigit? character with
    | some value => value < base
    | none => false
  (plainDigits? isDigit run).bind fun digits =>
    let value := valueIn base digits
    if value < Nat.pow 2 63 then some value else none

def integer? (run : List Char) : Option Int :=
  match run with
  | '0' :: 'x' :: digits => inBase? 16 digits
  | '0' :: 'o' :: digits => inBase? 8 digits
  | '0' :: 'b' :: digits => inBase? 2 digits
  | _ =>
    let (negative, digits) := unsigned run
    (wholeDigits? digits).bind fun digits =>
      let value : Int := Numeral.value digits
      if negative then (if value ≤ Nat.pow 2 63 then some (-value) else none)
      else if value < Nat.pow 2 63 then some value
      else none

/-- Whether a decimal, its point moved, rounds to no finite binary64 value. -/
def overflows (digits : List Char) (exponent : Int) : Bool :=
  let digits := digits.dropWhile (· = '0')
  let size : Int := digits.length + exponent
  if digits.isEmpty ∨ size ≤ 308 then false
  else if 309 < size then true
  else
    let value := Numeral.value digits
    let limit := Nat.pow 2 1024 - Nat.pow 2 970
    if 0 ≤ exponent then limit ≤ value * Nat.pow 10 exponent.toNat
    else limit * Nat.pow 10 exponent.natAbs ≤ value

/-- Whether a run of characters is a number with a point or an exponent, or a special value. A
number too large for one is refused. -/
def isReal (run : List Char) : Bool :=
  let (negative, run) := unsigned run
  if run = "inf".toList ∨ run = "nan".toList then true
  else
    let isMark (character : Char) : Bool := character = 'e' || character = 'E'
    let mantissa := run.takeWhile fun character => !isMark character
    let scale := run.dropWhile fun character => !isMark character
    let whole := mantissa.takeWhile (· ≠ '.')
    let fraction := mantissa.dropWhile (· ≠ '.')
    if scale.isEmpty ∧ fraction.isEmpty then false
    else
      let fractionDigits := if fraction.isEmpty then some []
        else plainDigits? Numeral.isDigit (fraction.drop 1)
      let exponent := if scale.isEmpty then some (0 : Int)
        else
          let (below, digits) := unsigned (scale.drop 1)
          (plainDigits? Numeral.isDigit digits).map fun digits =>
            let size : Int := Numeral.value digits
            if below then -size else size
      match wholeDigits? whole, fractionDigits, exponent with
      | some wholeDigits, some fractionDigits, some exponent =>
        negative || !overflows (wholeDigits ++ fractionDigits) (exponent - fractionDigits.length)
      | _, _, _ => false

def twoDigits? (least greatest : Nat) : List Char → Option Rest
  | a :: b :: rest =>
    let value := Numeral.value [a, b]
    if Numeral.isDigit a ∧ Numeral.isDigit b ∧ least ≤ value ∧ value ≤ greatest then some rest
    else none
  | _ => none

def dropMark (mark : Char) : List Char → Option Rest
  | character :: rest => if character = mark then some rest else none
  | [] => none

def date? (text : List Char) : Option Rest :=
  match text with
  | a :: b :: c :: d :: '-' :: e :: f :: '-' :: g :: h :: rest =>
    let digits := [a, b, c, d, e, f, g, h]
    let date : Calendar.Date :=
      ⟨Numeral.value [a, b, c, d], Numeral.value [e, f], Numeral.value [g, h]⟩
    if digits.all Numeral.isDigit ∧ date.isValid then some rest else none
  | _ => none

def time? (text : List Char) : Option Rest := do
  let rest ← twoDigits? 0 23 text
  let rest ← dropMark ':' rest
  let rest ← twoDigits? 0 59 rest
  let rest ← dropMark ':' rest
  let rest ← twoDigits? 0 60 rest
  match rest with
  | '.' :: fraction =>
    if (fraction.takeWhile Numeral.isDigit).isEmpty then none
    else some (fraction.dropWhile Numeral.isDigit)
  | _ => some rest

def skipOffset (text : List Char) : Rest :=
  match text with
  | 'Z' :: rest | 'z' :: rest => rest
  | sign :: rest =>
    if sign = '+' ∨ sign = '-' then
      match twoDigits? 0 23 rest >>= dropMark ':' >>= twoDigits? 0 59 with
      | some rest => rest
      | none => text
    else text
  | [] => []

/-- A date, a time, or both, with an offset behind both. -/
def moment? (text : List Char) : Option Rest :=
  match date? text with
  | some rest =>
    match rest with
    | mark :: clock =>
      if mark = 'T' ∨ mark = 't' ∨ mark = ' ' then
        match time? clock with
        | some rest => some (skipOffset rest)
        | none => some rest
      else some rest
    | [] => some []
  | none => time? text

/-- A moment is told apart from a table by the name of its only member. -/
def momentTree (text : List Char) : Tree :=
  .table [("$__toml_private_datetime", .text (String.ofList text))]

def isScalarCharacter (character : Char) : Bool :=
  character.isAlphanum || character = '+' || character = '-' || character = '_' || character = '.'
    || character = ':'

/-- A value that is written without brackets and quotes. -/
def readScalar (text : List Char) : Option (Tree × Rest) :=
  match moment? text with
  | some rest => some (momentTree (text.take (text.length - rest.length)), rest)
  | none =>
    let run := text.takeWhile isScalarCharacter
    let rest := text.dropWhile isScalarCharacter
    if run = "true".toList then some (.bool true, rest)
    else if run = "false".toList then some (.bool false, rest)
    else
      match integer? run with
      | some value => some (.integer value, rest)
      | none => if isReal run then some (.real, rest) else none

/-! ### Values -/

mutual

/-- One value. The first number bounds the calls and the second the nesting. -/
def readValue : Nat → Nat → List Char → Option (Tree × Rest)
  | 0, _, _ => none
  | fuel + 1, depth, text =>
    match text with
    | '"' :: _ | '\'' :: _ => (readText text).map fun read => (.text read.1, read.2)
    | '[' :: rest =>
      match depth with
      | 0 | 1 => none
      | depth + 1 => (readItems fuel depth rest).map fun read => (.list read.1, read.2)
    | '\x7b' :: rest =>
      match depth with
      | 0 | 1 => none
      | depth + 1 =>
        match skipSpace rest with
        | '\x7d' :: rest => some (.table [], rest)
        | rest =>
          (readPairs fuel depth [] rest).map fun read => (.table (memberTrees read.1), read.2)
    | _ => readScalar text

/-- The items of a list up to its closing bracket; a comma may stand behind the last one. -/
def readItems : Nat → Nat → List Char → Option (List Tree × Rest)
  | 0, _, _ => none
  | fuel + 1, depth, text =>
    match skipLines text.length text with
    | ']' :: rest => some ([], rest)
    | text =>
      match readValue fuel depth text with
      | none => none
      | some (item, rest) =>
        match skipLines rest.length rest with
        | ',' :: rest => (readItems fuel depth rest).map fun read => (item :: read.1, read.2)
        | ']' :: rest => some ([item], rest)
        | _ => none

/-- The pairs of a table in braces, which stand on one line. -/
def readPairs : Nat → Nat → Members → List Char → Option (Members × Rest)
  | 0, _, _, _ => none
  | fuel + 1, depth, members, text =>
    match readPath longestPath text with
    | some (path, '=' :: rest) =>
      match readValue fuel depth (skipSpace rest) with
      | none => none
      | some (tree, rest) =>
        match assign path tree .headed members with
        | none => none
        | some members =>
          match skipSpace rest with
          | ',' :: rest => readPairs fuel depth members rest
          | '\x7d' :: rest => some (members, rest)
          | _ => none
    | _ => none

end

/-! ### Documents -/

/-- What has been read of a document, and the header that the next lines stand under. -/
structure Document where
  root : Members
  header : List String

namespace Document

def empty : Document := ⟨[], []⟩

/-- A pair under the current header. -/
def assign (document : Document) (path : List String) (tree : Tree) : Option Document :=
  (descend false (Toml.assign path tree) .headed document.root document.header).map fun root =>
    { document with root := root }

def headTable (document : Document) (path : List String) : Option Document :=
  (openTable path document.root).map fun root => ⟨root, path⟩

def headElement (document : Document) (path : List String) : Option Document :=
  (openElement path document.root).map fun root => ⟨root, path⟩

/-- Reads what stands on one line, which is not empty; a value may go on over further lines. -/
def readLine (document : Document) (text : List Char) : Option (Document × Rest) :=
  match text with
  | '[' :: '[' :: rest =>
    match readPath longestPath rest with
    | some (path, ']' :: ']' :: rest) => (document.headElement path).map fun next => (next, rest)
    | _ => none
  | '[' :: rest =>
    match readPath longestPath rest with
    | some (path, ']' :: rest) => (document.headTable path).map fun next => (next, rest)
    | _ => none
  | _ =>
    match readPath longestPath text with
    | some (path, '=' :: rest) =>
      let rest := skipSpace rest
      match readValue (2 * rest.length + 2) deepest rest with
      | some (tree, rest) => (document.assign path tree).map fun next => (next, rest)
      | none => none
    | _ => none

def readLines : Nat → Document → List Char → Option Document
  | 0, _, _ => none
  | fuel + 1, document, text =>
    match lineEnd? text with
    | some [] => some document
    | some rest => readLines fuel document rest
    | none =>
      match document.readLine (skipSpace text) with
      | none => none
      | some (document, rest) =>
        match lineEnd? rest with
        | some [] => some document
        | some rest => readLines fuel document rest
        | none => none

end Document

/-- A whole document; a byte order mark may stand in front of it. -/
def read (text : String) : Option Tree :=
  let characters :=
    match text.toList with
    | '\uFEFF' :: rest => rest
    | characters => characters
  (Document.empty.readLines (characters.length + 1) characters).map fun document =>
    .table (memberTrees document.root)

end Archivist.Config.Toml
