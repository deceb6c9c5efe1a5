set_option autoImplicit false

/-!
Finite binary64 values in exact integer arithmetic. A value is a sign, a mantissa and a binary
exponent; every operation takes the exact result and rounds it once, to nearest with ties to even,
so that laws about it are laws about integers.
-/

namespace Archivist

/-- The value `mantissa * 2 ^ exponent`, negated when `negative` holds. One value may be written
with several mantissas, so values are told apart by `Binary64.order` and not by `=`; zero keeps its
sign. -/
structure Binary64 where
  negative : Bool
  mantissa : Nat
  exponent : Int
deriving Repr, DecidableEq

namespace Binary64

def zero : Binary64 := ⟨false, 0, 0⟩

def isZero (value : Binary64) : Bool := value.mantissa == 0

def negate (value : Binary64) : Binary64 := { value with negative := !value.negative }

/-- The exponent of the unit in the last place of the values near `numerator / denominator`. -/
private def unitExponent (numerator denominator : Nat) : Int :=
  let estimate : Int := (numerator.log2 : Int) - (denominator.log2 : Int)
  let reached : Bool :=
    denominator * Nat.pow 2 estimate.toNat ≤ numerator * Nat.pow 2 (-estimate).toNat
  max ((if reached then estimate else estimate - 1) - 52) (-1074)

/-- The quotient to the nearest integer, an exact half going to the even neighbour. -/
def roundQuotient (numerator denominator : Nat) : Nat :=
  let quotient := numerator / denominator
  let remainder := numerator % denominator
  if 2 * remainder < denominator then quotient
  else if denominator < 2 * remainder then quotient + 1
  else if quotient % 2 = 0 then quotient else quotient + 1

/-- The value nearest to a ratio; none when the ratio is too large to have a finite one. -/
def ofRatio (negative : Bool) (numerator denominator : Nat) : Option Binary64 :=
  if numerator = 0 then some ⟨negative, 0, 0⟩
  else
    let exponent := unitExponent numerator denominator
    let mantissa :=
      roundQuotient (numerator * Nat.pow 2 (-exponent).toNat)
        (denominator * Nat.pow 2 exponent.toNat)
    if 971 < exponent ∨ (exponent = 971 ∧ mantissa = Nat.pow 2 53) then none
    else some ⟨negative, mantissa, exponent⟩

/-- Naturals below `2 ^ 53` are values as they stand; larger ones are rounded. -/
def ofNat (value : Nat) : Binary64 :=
  if value < Nat.pow 2 53 then ⟨false, value, 0⟩ else (ofRatio false value 1).getD zero

def ofInt (value : Int) : Binary64 :=
  if value < 0 then (ofNat value.natAbs).negate else ofNat value.natAbs

/-- The decimal `digits * 10 ^ exponent` as the value nearest to it; none when it is too large to
have one. A decimal far below the least value or far above the greatest is told by its size
alone. -/
def ofDecimal (negative : Bool) (digits : Nat) (exponent : Int) : Option Binary64 :=
  if digits = 0 ∨ digits.log2 + 1080 < 3 * (-exponent).toNat then some ⟨negative, 0, 0⟩
  else if 309 < exponent then none
  else ofRatio negative (digits * Nat.pow 10 exponent.toNat) (Nat.pow 10 (-exponent).toNat)

def signed (value : Binary64) : Int :=
  if value.negative then -(value.mantissa : Int) else value.mantissa

/-- The order of the values themselves, so the two zeros are equal. -/
def order (left right : Binary64) : Ordering :=
  let exponent := min left.exponent right.exponent
  compare (left.signed * Nat.pow 2 (left.exponent - exponent).toNat)
    (right.signed * Nat.pow 2 (right.exponent - exponent).toNat)

theorem ofNat_of_lt (value : Nat) (small : value < Nat.pow 2 53) :
    ofNat value = ⟨false, value, 0⟩ := by
  simp only [ofNat, small, ↓reduceIte]

theorem ofNat_of_le (value : Nat) (large : Nat.pow 2 53 ≤ value) (small : value < Nat.pow 2 64) :
    ofNat value = ⟨false, roundQuotient value (Nat.pow 2 (value.log2 - 52)), value.log2 - 52⟩ := by
  have positive : value ≠ 0 := by
    intro zero
    subst zero
    exact absurd large (by decide)
  have bits : 52 ≤ value.log2 := (Nat.le_log2 positive).mpr (Nat.le_trans (by decide) large)
  have few : value.log2 < 64 := (Nat.log2_lt positive).mpr small
  have one : (1 : Nat).log2 = 0 := by decide
  have unit : unitExponent value 1 = value.log2 - 52 := by
    have reached : Nat.pow 2 value.log2 ≤ value := Nat.log2_self_le positive
    have none : (-(value.log2 : Int)).toNat = 0 := by omega
    simp only [unitExponent, one, Int.natCast_zero, Int.sub_zero, Int.toNat_natCast, none,
      Nat.one_mul, Nat.pow_eq, Nat.pow_zero, Nat.mul_one]
    rw [Nat.pow_eq] at reached
    simp only [reached, decide_true, ↓reduceIte]
    omega
  have shift : (-((value.log2 : Int) - 52)).toNat = 0 := by omega
  have places : ((value.log2 : Int) - 52).toNat = value.log2 - 52 := by omega
  have fits : ¬(971 < (value.log2 : Int) - 52 ∨ ((value.log2 : Int) - 52 = 971 ∧
      roundQuotient value (Nat.pow 2 (value.log2 - 52)) = Nat.pow 2 53)) := by omega
  rw [ofNat, if_neg (Nat.not_lt.mpr large), ofRatio, if_neg positive]
  simp only [unit, shift, places, Nat.pow_eq, Nat.pow_zero, Nat.mul_one, Nat.one_mul] at fits ⊢
  rw [if_neg fits, Option.getD_some]

theorem order_ofNat (left right : Nat) (leftSmall : left < Nat.pow 2 53)
    (rightSmall : right < Nat.pow 2 53) :
    order (ofNat left) (ofNat right) = compare left right := by
  have unit : ((Nat.pow 2 0 : Nat) : Int) = 1 := rfl
  rw [ofNat_of_lt left leftSmall, ofNat_of_lt right rightSmall]
  simp only [order, signed, Int.min_self, Int.sub_self, Int.toNat_zero, unit, Int.mul_one, compare,
    compareOfLessAndEq, Int.ofNat_lt, Int.ofNat_inj, Bool.false_eq_true, ↓reduceIte]

end Binary64

end Archivist
