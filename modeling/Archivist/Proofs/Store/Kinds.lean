import Archivist.Store.Listing
import Mathlib.Algebra.Order.Field.Power
import Mathlib.Data.Prod.Lex
import Mathlib.Data.Rat.Cast.Order
import Mathlib.Data.String.Basic
import Mathlib.Order.Compare

set_option autoImplicit false

namespace Archivist

open Calendar (Instant)
open Json (Value)

theorem compares_then {α β : Type} [LT α] [LT β] {first second : Ordering} {left right : α}
    {least most : β} (decides : first.Compares left right) (also : second.Compares least most) :
    (first.then second).Compares (toLex (left, least)) (toLex (right, most)) := by
  cases first with
  | lt => exact Prod.Lex.toLex_lt_toLex.mpr (Or.inl decides)
  | gt => exact Prod.Lex.toLex_lt_toLex.mpr (Or.inl decides)
  | eq =>
    obtain rfl : left = right := decides
    cases second with
    | lt => exact Prod.Lex.toLex_lt_toLex.mpr (Or.inr ⟨rfl, also⟩)
    | gt => exact Prod.Lex.toLex_lt_toLex.mpr (Or.inr ⟨rfl, also⟩)
    | eq =>
      obtain rfl : least = most := also
      exact rfl

namespace Binary64

def toRat (value : Binary64) : ℚ := value.signed * 2 ^ value.exponent

theorem toRat_eq (value : Binary64) (exponent : Int) (least : exponent ≤ value.exponent) :
    value.toRat =
      ((value.signed * Nat.pow 2 (value.exponent - exponent).toNat : Int) : ℚ) * 2 ^ exponent := by
  have two : (2 : ℚ) ≠ 0 := by norm_num
  have split : value.exponent = ((value.exponent - exponent).toNat : Int) + exponent := by omega
  rw [toRat]
  conv_lhs => rw [split]
  rw [zpow_add₀ two, zpow_natCast, ← mul_assoc]
  congr 1
  push_cast [Nat.pow_eq]
  rfl

theorem compares_order (left right : Binary64) :
    (left.order right).Compares left.toRat right.toRat := by
  have unit : (0 : ℚ) < 2 ^ min left.exponent right.exponent := by positivity
  have scaled : StrictMono fun whole : Int =>
      (whole : ℚ) * 2 ^ min left.exponent right.exponent := by
    intro whole other below
    exact mul_lt_mul_of_pos_right (Int.cast_lt.mpr below) unit
  rw [left.toRat_eq _ (min_le_left _ _), right.toRat_eq _ (min_le_right _ _)]
  exact scaled.compares.mpr ((compare_iff _ _).mp rfl)

end Binary64

def Calendar.Instant.moment (instant : Instant) : ℤ ×ₗ ℕ := toLex (instant.seconds, instant.nanos)

theorem Calendar.Instant.compares_order (left right : Instant) :
    (left.order right).Compares left.moment right.moment :=
  compares_then ((compare_iff _ _).mp rfl) ((compare_iff _ _).mp rfl)

/-- The ways in which a store compares values. -/
inductive Kind where
  | number
  | timestamp
  | text
  /-- Values that no order tells apart. -/
  | other
deriving Repr, DecidableEq

namespace Json.Value

def kind (value : Value) : Kind :=
  if (quantityOf? value).isSome then .number
  else if (instantOf? value).isSome then .timestamp
  else if value.scalarText.isSome then .text
  else .other

theorem readings (value : Value) :
    match value.kind with
    | .number => ∃ quantity, quantityOf? value = some quantity
    | .timestamp => quantityOf? value = none ∧ ∃ instant, instantOf? value = some instant
    | .text => quantityOf? value = none ∧ instantOf? value = none ∧
        ∃ text, value.scalarText = some text
    | .other => quantityOf? value = none ∧ instantOf? value = none ∧ value.scalarText = none := by
  rw [kind]
  cases number : quantityOf? value with
  | some quantity => exact ⟨quantity, rfl⟩
  | none =>
    cases time : instantOf? value with
    | some instant => exact ⟨rfl, instant, rfl⟩
    | none =>
      cases text : value.scalarText with
      | some shown => exact ⟨rfl, rfl, shown, rfl⟩
      | none => exact ⟨rfl, rfl, rfl⟩

abbrev Size : Type := ℚ ×ₗ (ℤ ×ₗ ℕ) ×ₗ String

def size (value : Value) : Size :=
  let epoch : ℤ ×ₗ ℕ := toLex (0, 0)
  match value.kind with
  | .number => toLex (((quantityOf? value).map Binary64.toRat).getD 0, toLex (epoch, ""))
  | .timestamp => toLex (0, toLex (((instantOf? value).map Instant.moment).getD epoch, ""))
  | .text => toLex (0, toLex (epoch, value.scalarText.getD ""))
  | .other => toLex (0, toLex (epoch, ""))

theorem compares_order {left right : Value} (alike : left.kind = right.kind) :
    (left.order right).Compares left.size right.size := by
  have first := left.readings
  have second := right.readings
  have same : ∀ {α : Type} [LT α] (value : α), Ordering.Compares .eq value value := fun _ => rfl
  simp only [size]
  cases shared : left.kind with
  | number =>
    rw [shared] at first alike
    rw [← alike] at second ⊢
    obtain ⟨quantity, number⟩ := first
    obtain ⟨other, another⟩ := second
    simp only [order, number, another]
    have whole := compares_then (quantity.compares_order other)
      (same (toLex (toLex ((0 : ℤ), (0 : ℕ)), "")))
    rwa [Ordering.then_eq] at whole
  | timestamp =>
    rw [shared] at first alike
    rw [← alike] at second ⊢
    obtain ⟨noNumber, instant, time⟩ := first
    obtain ⟨none, other, another⟩ := second
    simp only [order, noNumber, none, time, another]
    have whole := compares_then (same (0 : ℚ))
      (compares_then (instant.compares_order other) (same ""))
    rwa [Ordering.then_eq, Ordering.eq_then] at whole
  | text =>
    rw [shared] at first alike
    rw [← alike] at second ⊢
    obtain ⟨noNumber, noTime, text, shown⟩ := first
    obtain ⟨none, never, other, another⟩ := second
    simp only [order, noNumber, none, noTime, never, shown, another]
    have texts : (compare text other).Compares text other := (compare_iff _ _).mp rfl
    have whole := compares_then (same (0 : ℚ))
      (compares_then (same (toLex ((0 : ℤ), (0 : ℕ)))) texts)
    rwa [Ordering.eq_then, Ordering.eq_then] at whole
  | other =>
    rw [shared] at first alike
    rw [← alike]
    obtain ⟨noNumber, noTime, noText⟩ := first
    simp only [order, noNumber, noTime, noText]
    exact rfl

/-- Among values of more than one kind the comparison may go in a circle. -/
example : (Value.nat 2).order (.nat 10) = .lt ∧ (Value.nat 10).order (.text "1x") = .lt ∧
    (Value.text "1x").order (.nat 2) = .lt := by decide +kernel

end Json.Value

end Archivist
