set_option autoImplicit false

namespace Archivist.Numeral

/-- Texts that are already wide enough are left alone. -/
def padLeft (width : Nat) (filler : Char) (text : String) : String :=
  String.ofList (List.replicate (width - text.length) filler) ++ text

def padRight (width : Nat) (filler : Char) (text : String) : String :=
  text ++ String.ofList (List.replicate (width - text.length) filler)

def ofNat (value : Nat) : String := String.ofList (Nat.toDigits 10 value)

def ofInt (value : Int) : String :=
  if value < 0 then "-" ++ ofNat value.natAbs else ofNat value.natAbs

/-- Zeros fill the room in front of the digits. -/
def zeroPadded (width value : Nat) : String := padLeft width '0' (ofNat value)

/-- A comma stands before every third digit from the right, save at the front. -/
def grouped (value : Nat) : String :=
  let digits := (ofNat value).toList
  String.ofList (place digits.length digits)
where
  place : Nat → List Char → List Char
    | _, [] => []
    | remaining, digit :: rest =>
      if remaining % 3 = 1 ∧ rest ≠ [] then digit :: ',' :: place (remaining - 1) rest
      else digit :: place (remaining - 1) rest

def isDigit (character : Char) : Bool := '0' ≤ character && character ≤ '9'

def digitValue (character : Char) : Nat := character.toNat - '0'.toNat

/-- The number a run of decimal digits denotes; characters other than digits are not expected. -/
def value (digits : List Char) : Nat :=
  digits.foldl (fun total digit => total * 10 + digitValue digit) 0

theorem digitValue_lt (character : Char) (digit : isDigit character = true) :
    digitValue character < 10 := by
  simp only [isDigit, Bool.and_eq_true, decide_eq_true_eq, Char.le_def, UInt32.le_iff_toNat_le] at digit
  have nine : character.toNat ≤ '9'.toNat := digit.2
  have distance : '9'.toNat = '0'.toNat + 9 := by decide
  simp only [digitValue]
  omega

/-- A run of digits denotes less than the power of ten with as many zeros. -/
theorem value_lt (digits : List Char) (all : digits.all isDigit = true) :
    value digits < Nat.pow 10 digits.length := by
  suffices general : ∀ total, digits.foldl (fun total digit => total * 10 + digitValue digit) total <
      (total + 1) * 10 ^ digits.length by
    have begun := general 0
    rwa [Nat.zero_add, Nat.one_mul] at begun
  induction digits with
  | nil =>
    intro total
    simp only [List.foldl_nil, List.length_nil, Nat.pow_zero, Nat.mul_one]
    omega
  | cons digit rest ih =>
    intro total
    simp only [List.all_cons, Bool.and_eq_true] at all
    have small := digitValue_lt digit all.1
    have later := ih all.2 (total * 10 + digitValue digit)
    rw [List.foldl_cons, List.length_cons, Nat.pow_succ]
    calc
      _ < (total * 10 + digitValue digit + 1) * 10 ^ rest.length := later
      _ ≤ ((total + 1) * 10) * 10 ^ rest.length := Nat.mul_le_mul_right _ (by omega)
      _ = (total + 1) * (10 ^ rest.length * 10) := by rw [Nat.mul_assoc, Nat.mul_comm 10]

/-- A non-empty run of digits and nothing else. -/
def ofDigits? (digits : List Char) : Option Nat :=
  if digits.isEmpty then none
  else if digits.all isDigit then some (value digits) else none

end Archivist.Numeral
