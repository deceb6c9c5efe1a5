import Archivist.Number.Binary64
import Archivist.Numeral

set_option autoImplicit false

namespace Archivist.Binary64

structure Decimal where
  digits : Nat
  exponent : Int
deriving Repr, DecidableEq

namespace Decimal

/-- Zeros at the end of the digits are counted in the exponent instead. -/
def strip (fuel : Nat) (decimal : Decimal) : Decimal :=
  match fuel with
  | 0 => decimal
  | fuel + 1 =>
    if decimal.digits ≠ 0 ∧ decimal.digits % 10 = 0 then
      strip fuel ⟨decimal.digits / 10, decimal.exponent + 1⟩
    else decimal

/-- A power of ten always shows its sign. -/
def powerText (power : Int) : String :=
  (if 0 ≤ power then "e+" else "e") ++ Numeral.ofInt power

def text (decimal : Decimal) : String :=
  let digits := Nat.toDigits 10 decimal.digits
  let leading : Int := decimal.exponent + digits.length - 1
  if -6 < leading ∧ leading < 16 then
    if 0 ≤ decimal.exponent then
      String.ofList (digits ++ List.replicate decimal.exponent.toNat '0') ++ ".0"
    else if 0 ≤ leading then
      let whole := leading.toNat + 1
      String.ofList (digits.take whole) ++ "." ++ String.ofList (digits.drop whole)
    else
      "0." ++ String.ofList (List.replicate (-leading - 1).toNat '0' ++ digits)
  else
    let fraction :=
      match digits.drop 1 with
      | [] => ""
      | rest => "." ++ String.ofList rest
    String.ofList (digits.take 1) ++ fraction ++ powerText leading

end Decimal

/-- The same value with a mantissa of 53 bits, or the least exponent. -/
def normalized (value : Binary64) : Binary64 :=
  let room : Nat := 52 - value.mantissa.log2
  let shift : Nat := min room (value.exponent + 1074).toNat
  { value with mantissa := value.mantissa * Nat.pow 2 shift, exponent := value.exponent - shift }

/-- The reals that round to a value, in quarters of its last place. -/
structure Interval where
  lower : Nat
  middle : Nat
  upper : Nat
  inclusive : Bool
  quarter : Int

/-- Just above a power of two the gap below is half as wide as the gap above. -/
def interval (value : Binary64) : Interval where
  lower :=
    if value.mantissa = Nat.pow 2 52 ∧ -1074 < value.exponent then 4 * value.mantissa - 1
    else 4 * value.mantissa - 2
  middle := 4 * value.mantissa
  upper := 4 * value.mantissa + 2
  inclusive := value.mantissa % 2 = 0
  quarter := value.exponent - 2

/-- The multiple of `10 ^ exponent` nearest to the middle among those in the interval. -/
def Interval.onGrid (interval : Interval) (exponent : Int) : Option Decimal :=
  let step := Nat.pow 10 exponent.toNat * Nat.pow 2 (-interval.quarter).toNat
  let unit := Nat.pow 2 interval.quarter.toNat * Nat.pow 10 (-exponent).toNat
  let inside (digits : Nat) : Bool :=
    if interval.inclusive then
      interval.lower * unit ≤ digits * step && digits * step ≤ interval.upper * unit
    else interval.lower * unit < digits * step && digits * step < interval.upper * unit
  let below := interval.middle * unit / step
  match inside below, inside (below + 1) with
  | false, false => none
  | true, false => some ⟨below, exponent⟩
  | false, true => some ⟨below + 1, exponent⟩
  | true, true =>
    let twice := 2 * interval.middle * unit
    let halfway := (2 * below + 1) * step
    if twice < halfway ∨ (twice = halfway ∧ below % 2 = 0) then some ⟨below, exponent⟩
    else some ⟨below + 1, exponent⟩

/-- The least power of ten above a positive value. -/
def scale (value : Binary64) : Int :=
  let bits : Int := value.mantissa.log2 + value.exponent
  let estimate : Int := Int.fdiv (bits * 30103) 100000
  let above (power : Int) : Bool :=
    value.mantissa * Nat.pow 2 value.exponent.toNat * Nat.pow 10 (-power).toNat
      < Nat.pow 10 power.toNat * Nat.pow 2 (-value.exponent).toNat
  if above (estimate - 1) then estimate - 1
  else if above estimate then estimate
  else if above (estimate + 1) then estimate + 1
  else estimate + 2

/-- Seventeen digits always suffice; the exact value stands behind them all the same. -/
def shortest (value : Binary64) : Decimal :=
  let normal := value.normalized
  let top := normal.scale
  let found := (List.range 17).findSome? fun (count : Nat) =>
    normal.interval.onGrid (top - count - 1)
  match found with
  | some decimal => decimal.strip 20
  | none =>
    ⟨normal.mantissa * Nat.pow 2 normal.exponent.toNat * Nat.pow 5 (-normal.exponent).toNat,
      min normal.exponent 0⟩

def text (value : Binary64) : String :=
  let sign := if value.negative then "-" else ""
  if value.isZero then sign ++ "0.0" else sign ++ value.shortest.text

end Archivist.Binary64
