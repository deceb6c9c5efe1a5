import Archivist.Number.Binary64
import Mathlib.Algebra.Ring.Int.Defs
import Mathlib.Algebra.Ring.Nat

set_option autoImplicit false

namespace Archivist.Binary64

/-- Integers that fit 64 bits, with a sign or without. -/
structure IsWord (value : Int) : Prop where
  least : -(2 ^ 63) ≤ value
  most : value < 2 ^ 64

instance (value : Int) : Decidable (IsWord value) :=
  decidable_of_iff (-(2 ^ 63) ≤ value ∧ value < 2 ^ 64)
    ⟨fun ⟨least, most⟩ => ⟨least, most⟩, fun ⟨least, most⟩ => ⟨least, most⟩⟩

section Quotient

variable {numerator other denominator : Nat}

/-- A quotient is rounded up when more than half is left over, or half of it and the quotient is
odd. -/
theorem roundQuotient_eq (numerator denominator : Nat) :
    roundQuotient numerator denominator = numerator / denominator +
      if denominator < 2 * (numerator % denominator) ∨
        (denominator = 2 * (numerator % denominator) ∧ numerator / denominator % 2 = 1)
      then 1 else 0 := by
  simp only [roundQuotient]
  by_cases little : 2 * (numerator % denominator) < denominator
  · rw [if_pos little, if_neg (by omega)]
    omega
  · rw [if_neg little]
    by_cases much : denominator < 2 * (numerator % denominator)
    · rw [if_pos much, if_pos (Or.inl much)]
    · rw [if_neg much]
      by_cases even : numerator / denominator % 2 = 0
      · rw [if_pos even, if_neg (by omega)]
        omega
      · rw [if_neg even, if_pos (by omega)]

theorem div_le_roundQuotient (numerator denominator : Nat) :
    numerator / denominator ≤ roundQuotient numerator denominator := by
  rw [roundQuotient_eq]
  exact Nat.le_add_right _ _

theorem roundQuotient_le (numerator denominator : Nat) :
    roundQuotient numerator denominator ≤ numerator / denominator + 1 := by
  rw [roundQuotient_eq]
  split <;> omega

theorem roundQuotient_one (numerator : Nat) : roundQuotient numerator 1 = numerator := by
  simp [roundQuotient, Nat.mod_one]

/-- With one quotient the remainders decide, and else the quotients leave room to round up. -/
theorem roundQuotient_mono (below : numerator ≤ other) :
    roundQuotient numerator denominator ≤ roundQuotient other denominator := by
  by_cases same : numerator / denominator = other / denominator
  · have remainders : numerator % denominator ≤ other % denominator := by
      have first := Nat.div_add_mod numerator denominator
      have second := Nat.div_add_mod other denominator
      rw [same] at first
      omega
    rw [roundQuotient_eq, roundQuotient_eq, same]
    split
    · apply Nat.le_of_eq
      rw [if_pos (by omega)]
    · split <;> omega
  · have quotients : numerator / denominator ≤ other / denominator :=
      Nat.div_le_div_right below
    calc
      roundQuotient numerator denominator ≤ numerator / denominator + 1 := roundQuotient_le _ _
      _ ≤ other / denominator := by omega
      _ ≤ roundQuotient other denominator := div_le_roundQuotient _ _

end Quotient

def nearestNat (value : Nat) : Nat :=
  roundQuotient value (2 ^ (value.log2 - 52)) * 2 ^ (value.log2 - 52)

theorem nearestNat_of_log2 {value : Nat} (few : value.log2 ≤ 52) : nearestNat value = value := by
  have none : value.log2 - 52 = 0 := by omega
  rw [nearestNat, none, Nat.pow_zero, roundQuotient_one, Nat.mul_one]

theorem nearestNat_of_le {value : Nat} (small : value ≤ 2 ^ 53) : nearestNat value = value := by
  by_cases most : value = 2 ^ 53
  · subst most
    decide +kernel
  · apply nearestNat_of_log2
    by_cases zero : value = 0
    · subst zero
      decide
    · have few : value.log2 < 53 := (Nat.log2_lt zero).mpr (by omega)
      omega

/-- Rounding stays below the next power of two. -/
theorem nearestNat_le (value : Nat) : nearestNat value ≤ 2 ^ (value.log2 + 1) := by
  have less : value < 2 ^ (value.log2 + 1) := Nat.lt_log2_self
  by_cases few : value.log2 ≤ 52
  · rw [nearestNat_of_log2 few]
    exact Nat.le_of_lt less
  · have split : 2 ^ (value.log2 + 1) = 2 ^ 53 * 2 ^ (value.log2 - 52) := by
      rw [← Nat.pow_add]
      congr 1
      omega
    have quotient : value / 2 ^ (value.log2 - 52) < 2 ^ 53 := by
      apply Nat.div_lt_of_lt_mul
      rw [Nat.mul_comm, ← split]
      exact less
    have rounded := roundQuotient_le value (2 ^ (value.log2 - 52))
    rw [nearestNat, split]
    apply Nat.mul_le_mul_right
    omega

/-- Rounding stays above the power of two of the first bit. -/
theorem le_nearestNat {value : Nat} (positive : value ≠ 0) :
    2 ^ value.log2 ≤ nearestNat value := by
  have more : 2 ^ value.log2 ≤ value := Nat.log2_self_le positive
  by_cases few : value.log2 ≤ 52
  · rw [nearestNat_of_log2 few]
    exact more
  · have split : 2 ^ value.log2 = 2 ^ 52 * 2 ^ (value.log2 - 52) := by
      rw [← Nat.pow_add]
      congr 1
      omega
    have quotient : 2 ^ 52 ≤ value / 2 ^ (value.log2 - 52) := by
      apply (Nat.le_div_iff_mul_le (Nat.two_pow_pos _)).mpr
      rw [← split]
      exact more
    have rounded := div_le_roundQuotient value (2 ^ (value.log2 - 52))
    rw [nearestNat, split]
    apply Nat.mul_le_mul_right
    omega

/-- Naturals with the same first bit are rounded at the same place. A power of two stands between
others. -/
theorem nearestNat_mono {value other : Nat} (below : value ≤ other) :
    nearestNat value ≤ nearestNat other := by
  by_cases zero : value = 0
  · subst zero
    exact Nat.zero_le _
  · have positive : other ≠ 0 := by omega
    have bits : value.log2 ≤ other.log2 := by
      apply (Nat.le_log2 positive).mpr
      exact Nat.le_trans (Nat.log2_self_le zero) below
    by_cases same : value.log2 = other.log2
    · unfold nearestNat
      rw [same]
      exact Nat.mul_le_mul_right _ (roundQuotient_mono below)
    · calc
        nearestNat value ≤ 2 ^ (value.log2 + 1) := nearestNat_le value
        _ ≤ 2 ^ other.log2 := Nat.pow_le_pow_right (by decide) (by omega)
        _ ≤ nearestNat other := le_nearestNat positive

def nearest (value : Int) : Int :=
  if value < 0 then -(nearestNat value.natAbs) else nearestNat value.natAbs

theorem nearest_of_small {value : Int} (small : value.natAbs ≤ 2 ^ 53) : nearest value = value := by
  rw [nearest, nearestNat_of_le small]
  split <;> omega

theorem nearest_mono {value other : Int} (below : value ≤ other) :
    nearest value ≤ nearest other := by
  unfold nearest
  by_cases negative : value < 0
  · rw [if_pos negative]
    by_cases also : other < 0
    · rw [if_pos also]
      have magnitudes := nearestNat_mono (show other.natAbs ≤ value.natAbs by omega)
      omega
    · rw [if_neg also]
      omega
  · have also : ¬ other < 0 := by omega
    rw [if_neg negative, if_neg also]
    have magnitudes := nearestNat_mono (show value.natAbs ≤ other.natAbs by omega)
    omega

theorem lt_of_nearest_lt {value other : Int} (below : nearest value < nearest other) :
    value < other := by
  by_cases ordered : value < other
  · exact ordered
  · have rounded := nearest_mono (Int.not_lt.mp ordered)
    omega

theorem nearest_lt_iff {value other : Int} (apart : nearest value = nearest other → value = other) :
    nearest value < nearest other ↔ value < other := by
  constructor
  · exact lt_of_nearest_lt
  · intro below
    have rounded := nearest_mono (Int.le_of_lt below)
    by_cases same : nearest value = nearest other
    · have equal := apart same
      omega
    · omega

/-- A quotient is rounded by half of the denominator at most. -/
theorem roundQuotient_near (numerator : Nat) {denominator : Nat} (positive : 0 < denominator) :
    2 * (roundQuotient numerator denominator * denominator) ≤ 2 * numerator + denominator ∧
      2 * numerator ≤ 2 * (roundQuotient numerator denominator * denominator) + denominator := by
  have whole := Nat.div_add_mod numerator denominator
  have less := Nat.mod_lt numerator positive
  rw [roundQuotient_eq, Nat.add_mul, Nat.mul_comm (numerator / denominator)]
  split
  · rw [Nat.one_mul]
    omega
  · rw [Nat.zero_mul]
    omega

/-- Words of 64 bits are rounded by 1024 at most. -/
theorem nearestNat_near {value : Nat} (small : value < 2 ^ 64) :
    nearestNat value ≤ value + 1024 ∧ value ≤ nearestNat value + 1024 := by
  have unit : 2 ^ (value.log2 - 52) ≤ 2048 := by
    by_cases zero : value = 0
    · subst zero
      decide
    · have bits : value.log2 < 64 := (Nat.log2_lt zero).mpr small
      calc
        2 ^ (value.log2 - 52) ≤ 2 ^ 11 := Nat.pow_le_pow_right (by decide) (by omega)
        _ = 2048 := by decide
  obtain ⟨above, below⟩ := roundQuotient_near value (Nat.two_pow_pos (value.log2 - 52))
  rw [nearestNat]
  omega

/-- Words that are far from each other, or near zero, are kept apart. -/
theorem eq_of_nearest_eq {left right : Int} (first : IsWord left) (second : IsWord right)
    (clear : (left.natAbs ≤ 2 ^ 53 ∧ right.natAbs ≤ 2 ^ 53) ∨ 2048 < (left - right).natAbs)
    (same : nearest left = nearest right) : left = right := by
  rcases clear with ⟨small, also⟩ | far
  · rwa [nearest_of_small small, nearest_of_small also] at same
  · have near {value : Int} (word : IsWord value) :
        nearest value ≤ value + 1024 ∧ value ≤ nearest value + 1024 := by
      have least := word.least
      have most := word.most
      obtain ⟨above, below⟩ := nearestNat_near (show value.natAbs < 2 ^ 64 by omega)
      unfold nearest
      split <;> omega
    have ofLeft := near first
    have ofRight := near second
    omega

theorem exists_exponent_ofInt {value : Int} (word : IsWord value) :
    ∃ exponent : Nat, (ofInt value).exponent = exponent ∧
      (ofInt value).signed * 2 ^ exponent = nearest value := by
  have small : value.natAbs < Nat.pow 2 64 := by
    have least := word.least
    have most := word.most
    rw [Nat.pow_eq]
    omega
  have natural : ∃ exponent : Nat, (ofNat value.natAbs).exponent = exponent ∧
      (ofNat value.natAbs).negative = false ∧
      (ofNat value.natAbs).mantissa * 2 ^ exponent = nearestNat value.natAbs := by
    by_cases few : value.natAbs < Nat.pow 2 53
    · rw [ofNat_of_lt _ few]
      refine ⟨0, rfl, rfl, ?_⟩
      rw [Nat.pow_zero, Nat.mul_one, nearestNat_of_le (Nat.le_of_lt few)]
    · have large := Nat.not_lt.mp few
      have bits : 52 ≤ value.natAbs.log2 := by
        apply (Nat.le_log2 (Nat.ne_of_gt (Nat.lt_of_lt_of_le (by decide) large))).mpr
        exact Nat.le_trans (by decide) large
      rw [ofNat_of_le _ large small]
      exact ⟨value.natAbs.log2 - 52, by simp only; omega, rfl, rfl⟩
  obtain ⟨exponent, shown, positive, rounded⟩ := natural
  refine ⟨exponent, ?_, ?_⟩
  · unfold ofInt
    split
    · exact shown
    · exact shown
  · have magnitude : ((ofNat value.natAbs).mantissa : Int) * 2 ^ exponent =
        nearestNat value.natAbs := by
      rw [← rounded]
      push_cast
      rfl
    unfold ofInt nearest
    by_cases negative : value < 0
    · simp only [if_pos negative, negate, signed, positive, Bool.not_false, if_true, Int.neg_mul,
        magnitude]
    · simp only [if_neg negative, signed, positive, Bool.false_eq_true, if_false, magnitude]

theorem compare_mul_right (left right : Int) {unit : Int} (positive : 0 < unit) :
    compare (left * unit) (right * unit) = compare left right := by
  simp only [compare, compareOfLessAndEq, Int.mul_lt_mul_right positive,
    Int.mul_eq_mul_right_iff (Int.ne_of_gt positive)]

theorem order_ofInt {left right : Int} (first : IsWord left) (second : IsWord right) :
    (ofInt left).order (ofInt right) = compare (nearest left) (nearest right) := by
  obtain ⟨exponent, shown, rounded⟩ := exists_exponent_ofInt first
  obtain ⟨other, alsoShown, alsoRounded⟩ := exists_exponent_ofInt second
  have unit : (0 : Int) < 2 ^ min exponent other := Int.pow_pos (by decide)
  have least : min (exponent : Int) other = (min exponent other : Nat) := by omega
  have scaled (mantissa : Int) {place : Nat} (within : min exponent other ≤ place) :
      mantissa * Nat.pow 2 ((place : Int) - (min exponent other : Nat)).toNat *
        2 ^ min exponent other = mantissa * 2 ^ place := by
    have places : ((place : Int) - (min exponent other : Nat)).toNat + min exponent other =
        place := by omega
    rw [Int.mul_assoc, Nat.pow_eq, Int.natCast_pow, Int.cast_ofNat_Int, ← Int.pow_add, places]
  -- Mantissas are compared at the lesser exponent, and the values at the exponent zero.
  simp only [order, shown, alsoShown, least]
  rw [← compare_mul_right _ _ unit, scaled _ (Nat.min_le_left _ _), scaled _ (Nat.min_le_right _ _),
    rounded, alsoRounded]

end Archivist.Binary64
