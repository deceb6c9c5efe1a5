import Archivist.Text
import Archivist.Web.Direction
import Archivist.Web.Punycode

set_option autoImplicit false

/-!
Names of hosts. A name is read with its capitals as small letters, its full stops and figures as
those of ASCII, and without the characters that are ignored; then every label of it must be in
order, and if a part of the name is read from right to left, every label must keep to one direction.
-/

namespace Archivist.Web

/-- A name as its labels, without the full stops between them. -/
structure Domain where
  labels : List (List Char)
deriving Repr, DecidableEq

namespace Domain

def isAscii (character : Char) : Bool := character.toNat < 128

/-- The characters of ASCII that end the name of a host or cannot be in one. -/
def isDenied (character : Char) : Bool :=
  character.toNat ≤ 32 || character.toNat = 127 || "%#/:<>?@[\\]^|".toList.contains character

def inRun? (runs : List (Nat × Nat × Nat)) (point : Nat) : Option Nat :=
  (runs.find? fun run => run.1 ≤ point && point ≤ run.2.1).map fun run =>
    run.2.2 + (point - run.1)

def reading (character : Char) : Option (List Char) :=
  let point := character.toNat
  if isAscii character then if isDenied character then none else some [character.toLower]
  else if forbidden.contains point then none
  else if ignored.contains point then some []
  else
    match inRun? plainRuns point, inRun? numberRuns point, ligatures.lookup point with
    | some plain, _, _ => some [Char.ofNat plain]
    | none, some number, _ => some (Nat.toDigits 10 number)
    | none, none, some letters => some letters.toList
    | none, none, none => some [character]

/-- A joiner stands only behind a sign that joins consonants. -/
def joinersInPlace : List Char → Bool
  | [] => true
  | character :: rest => go character rest && !isJoiner character
where
  isJoiner (character : Char) : Bool := character.toNat = 0x200C || character.toNat = 0x200D
  go (before : Char) : List Char → Bool
    | [] => true
    | character :: rest =>
      (!isJoiner character || viramas.contains before.toNat) && go character rest

/-- Whether a label of any script may stand in a name. It does not begin with a mark. -/
def isWellFormed (label : List Char) : Bool :=
  joinersInPlace label && !(label.head?.any fun first => marks.contains first.toNat)

/-- What stands behind the beginning of a label that is written in the letters of ASCII. -/
def encoded? : List Char → Option (List Char)
  | 'x' :: 'n' :: '-' :: '-' :: rest => some rest
  | _ => none

def isPlain (character : Char) : Bool :=
  reading character = some [character] && !replaced.contains character.toNat

/-- What a label means: one in the letters of ASCII stands for one that could not be written with
them. -/
def meaning (label : List Char) : Option (List Char) :=
  match encoded? label with
  | none => if isWellFormed label then some label else none
  | some text => (Punycode.decode text).filter fun decoded =>
    decoded.any (!isAscii ·) && decoded.all isPlain && isWellFormed decoded

/-- Whether labels keep to directions, if any of them is read from right to left. -/
def keepsDirections (labels : List (List Char)) : Bool :=
  let directions := labels.map Direction.ofLabel
  !(directions.any fun label => label.any Direction.isRightToLeft)
    || directions.all fun label => label.isEmpty || Direction.agree label

/-- A name that holds at least one character, and labels that are all in order. -/
def read (text : List Char) : Option Domain := do
  let readings ← text.mapM reading
  let name := readings.flatten
  let labels := Text.splitAt '.' name
  let meanings ← labels.mapM meaning
  guard (name ≠ [] ∧ keepsDirections meanings)
  return ⟨labels⟩

end Domain

end Archivist.Web
