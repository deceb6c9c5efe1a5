import Archivist.Web.Domain
import Archivist.Numeral

set_option autoImplicit false

namespace Archivist.Web

inductive Host where
  | domain (name : Domain)
  /-- The four bytes of an address as one number. -/
  | number (value : Nat)
  /-- An address in eight groups. -/
  | groups
deriving Repr, DecidableEq

structure Address where
  scheme : String
  host : Host
  service : Option Nat
deriving Repr, DecidableEq

namespace Host

/-- A number in figures of base ten, or of base eight behind a zero, or of base sixteen behind
`0x`. -/
def readNumber (text : List Char) : Option Nat :=
  match text with
  | [] => none
  | '0' :: 'x' :: digits => ofDigits 16 digits
  | ['0'] => some 0
  | '0' :: digits => ofDigits 8 digits
  | digits => ofDigits 10 digits
where
  ofDigits (base : Nat) (digits : List Char) : Option Nat :=
    let values := digits.filterMap Text.hexDigit?
    if values.length = digits.length ∧ values.all (· < base) then
      some (values.foldl (fun total value => total * base + value) 0)
    else none

/-- The labels of a name without an empty one at its end. -/
def withoutEnd (labels : List (List Char)) : List (List Char) :=
  if labels.getLast? = some [] then labels.dropLast else labels

/-- A name whose last label is a number is meant as a number. -/
def endsInNumber (labels : List (List Char)) : Bool :=
  match (withoutEnd labels).getLast? with
  | none => false
  | some last => (last ≠ [] && last.all Numeral.isDigit) || (readNumber last).isSome

/-- Bytes in front, and a number for all bytes that are left, which fits into them. -/
def combine (numbers : List Nat) : Option Nat :=
  match numbers.getLast? with
  | none => none
  | some last =>
    let bytes := numbers.dropLast
    if 4 < numbers.length ∨ bytes.any (255 < ·) ∨ Nat.pow 256 (4 - bytes.length) ≤ last then
      none
    else some (bytes.foldr (fun byte total => byte * Nat.pow 256 3 + total / 256) 0 + last)

/-- Up to four digits of base sixteen. -/
def isGroup (text : List Char) : Bool :=
  text ≠ [] && text.length ≤ 4 && text.all fun character => (Text.hexDigit? character).isSome

/-- A number below 256 that does not begin with a zero that could be left out. -/
def isByte (text : List Char) : Bool :=
  match Numeral.ofDigits? text with
  | none => false
  | some value => value < 256 && (text.length = 1 || text.head? ≠ some '0')

/-- Four bytes with full stops between them take the room of two groups. -/
def isQuad (text : List Char) : Bool :=
  let parts := Text.splitAt '.' text
  parts.length = 4 && parts.all isByte

/-- How many groups some text between colons makes up; at its very end it may hold bytes. -/
def countGroups (mayEndInQuad : Bool) : List (List Char) → Option Nat
  | [] => some 0
  | [last] =>
    if isGroup last then some 1 else if mayEndInQuad && isQuad last then some 2 else none
  | group :: rest =>
    if isGroup group then (countGroups mayEndInQuad rest).map (· + 1) else none

/-- The texts before and behind the first two colons next to each other. -/
def splitGap : List Char → Option (List Char × List Char)
  | ':' :: ':' :: rest => some ([], rest)
  | character :: rest => (splitGap rest).map fun parts => (character :: parts.1, parts.2)
  | [] => none

/-- Groups between colons, none for an empty text. -/
def groupsOf (mayEndInQuad : Bool) (text : List Char) : Option Nat :=
  if text = [] then some 0 else countGroups mayEndInQuad (Text.splitAt ':' text)

/-- Eight groups, or fewer with a gap for those that are zero. -/
def isGroups (text : List Char) : Bool :=
  match splitGap text with
  | none => groupsOf true text = some 8
  | some (before, behind) =>
    match groupsOf false before, groupsOf true behind with
    | some left, some right => left + right < 8
    | _, _ => false

/-- The bytes that a text with escapes stands for. -/
def unescape : List UInt8 → List UInt8
  | 37 :: high :: low :: rest =>
    match Text.hexDigit? (Char.ofNat high.toNat), Text.hexDigit? (Char.ofNat low.toNat) with
    | some first, some second => (first * 16 + second).toUInt8 :: unescape rest
    | _, _ => 37 :: unescape (high :: low :: rest)
  | byte :: rest => byte :: unescape rest
  | [] => []

def read (text : List Char) : Option Host :=
  match text with
  | '[' :: rest =>
    if rest.getLast? = some ']' ∧ isGroups rest.dropLast then some .groups else none
  | _ => do
    let bytes := unescape (String.ofList text).toUTF8.toList
    let name ← String.fromUTF8? ⟨bytes.toArray⟩
    let domain ← Domain.read name.toList
    if endsInNumber domain.labels then
      return .number (← combine (← (withoutEnd domain.labels).mapM readNumber))
    else return .domain domain

/-- The characters of ASCII that a name may be sent with. -/
def isSendable : Host → Bool
  | .domain name => name.labels.all fun label => label.all fun character =>
      !(Domain.isAscii character) || character.isAlphanum
        || "!$&'()*+,-.;=_~".toList.contains character
  | .number _ | .groups => true

end Host

namespace Address

/-- Blanks and control characters around an address, and tabs and line breaks anywhere in it, are
passed over. -/
def tidy (text : List Char) : List Char :=
  let isOuter (character : Char) : Bool := character.toNat ≤ 32
  (((text.dropWhile isOuter).reverse.dropWhile isOuter).reverse).filter fun character =>
    character ≠ '\t' ∧ character ≠ '\n' ∧ character ≠ '\r'

/-- A scheme begins with a letter and ends at a colon. -/
def splitScheme (text : List Char) : Option (List Char × List Char) :=
  let scheme := text.takeWhile (· ≠ ':')
  let isPart (character : Char) : Bool :=
    character.isAlphanum || character = '+' || character = '-' || character = '.'
  match scheme, text.drop scheme.length with
  | first :: _, ':' :: rest =>
    if first.isAlpha ∧ scheme.all isPart then some (scheme.map Char.toLower, rest) else none
  | _, _ => none

def isSlash (character : Char) : Bool := character = '/' || character = '\\'

def endsAuthority (character : Char) : Bool :=
  isSlash character || character = '?' || character = '#'

/-- What stands behind the last at sign: who asks is said in front of it. -/
def withoutUser (text : List Char) : List Char :=
  (text.reverse.takeWhile (· ≠ '@')).reverse

/-- The host and what stands behind it. A colon ends the host unless it is inside of brackets. -/
def splitHost (isInside : Bool) : List Char → List Char × List Char
  | [] => ([], [])
  | character :: rest =>
    if character = ':' ∧ !isInside then ([], character :: rest)
    else
      let isInside := character = '[' || (isInside && character ≠ ']')
      let (host, behind) := splitHost isInside rest
      (character :: host, behind)

/-- The number of a service behind its colon; there may be no digits. -/
def readService : List Char → Option (Option Nat)
  | [] | [':'] => some none
  | _ :: digits => do
    let number ← Numeral.ofDigits? digits
    guard (number < Nat.pow 2 16)
    return some number

/-- An address of the web. It does not matter how many slashes stand before the host, or which way
they lean. -/
def read (text : String) : Option Address := do
  let (scheme, rest) ← splitScheme (tidy text.toList)
  guard (scheme = "http".toList ∨ scheme = "https".toList)
  let authority := (rest.dropWhile isSlash).takeWhile fun character => !endsAuthority character
  let (host, behind) := splitHost false (withoutUser authority)
  return ⟨String.ofList scheme, ← Host.read host, ← readService behind⟩

/-- Whether an address that can be read can also be asked for something. -/
def isSendable (address : Address) : Bool := address.host.isSendable

end Address

end Archivist.Web
