import Archivist.Number.Shortest

set_option autoImplicit false

namespace Archivist.Json

/-- `1` and `1.0` are different numbers, although they compare as equal. -/
inductive Number where
  | integer (value : Int)
  | real (value : Binary64)
deriving Repr, DecidableEq

namespace Number

def ofNat (value : Nat) : Number := .integer value

def toBinary64 : Number → Binary64
  | .integer value => .ofInt value
  | .real value => value

/-- Integers that are not negative; `1.0` is no integer. -/
def toNat? : Number → Option Nat
  | .integer value => if 0 ≤ value then some value.toNat else none
  | .real _ => none

def text : Number → String
  | .integer value => Numeral.ofInt value
  | .real value => value.text

end Number

inductive Value where
  | null
  | bool (value : Bool)
  | number (value : Number)
  | text (value : String)
  | array (items : List Value)
  | object (members : List (String × Value))
deriving Repr, Inhabited

/-- Puts a member at its place among members sorted by key; a later value replaces an earlier
one. -/
def insertMember {α : Type} (key : String) (value : α) :
    List (String × α) → List (String × α)
  | [] => [(key, value)]
  | (other, held) :: rest =>
    if key < other then (key, value) :: (other, held) :: rest
    else if key = other then (key, value) :: rest
    else (other, held) :: insertMember key value rest

def memberOf? {α : Type} (key : String) : List (String × α) → Option α
  | [] => none
  | (other, held) :: rest => if other = key then some held else memberOf? key rest

namespace Value

def nat (value : Nat) : Value := .number (.integer value)

def int (value : Int) : Value := .number (.integer value)

/-- The members in any order, the last of several with one key counting. -/
def ofMembers (members : List (String × Value)) : Value :=
  .object (members.foldl (fun sorted member => insertMember member.1 member.2 sorted) [])

def member? (key : String) : Value → Option Value
  | .object members => memberOf? key members
  | _ => none

def isNull : Value → Bool
  | .null => true
  | _ => false

def text? : Value → Option String
  | .text value => some value
  | _ => none

def items? : Value → Option (List Value)
  | .array items => some items
  | _ => none

def members? : Value → Option (List (String × Value))
  | .object members => some members
  | _ => none

def nat? : Value → Option Nat
  | .number value => value.toNat?
  | _ => none

theorem eq_nat_of_nat? {value : Value} {number : Nat} (read : value.nat? = some number) :
    value = .nat number := by
  match value with
  | .number (.integer whole) =>
    simp only [nat?, Number.toNat?, Option.ite_none_right_eq_some, Option.some.injEq] at read
    rw [nat, ← read.2, Int.toNat_of_nonneg read.1]
  | .number (.real _) | .null | .bool _ | .text _ | .array _ | .object _ => cases read

def int? : Value → Option Int
  | .number (.integer value) => some value
  | _ => none

def bool? : Value → Option Bool
  | .bool value => some value
  | _ => none

/-- The text under which a scalar takes part in comparisons by text: a string stands for itself. -/
def scalarText : Value → Option String
  | .text value => some value
  | .number value => some value.text
  | .bool value => some (if value then "true" else "false")
  | _ => none

end Value

end Archivist.Json
