import Archivist.Numeral

set_option autoImplicit false

namespace Archivist.Numeral

theorem ofNat_injective {value other : Nat} (same : ofNat value = ofNat other) : value = other := by
  have digits : Nat.toDigits 10 value = Nat.toDigits 10 other := by
    simpa only [ofNat, String.toList_ofList] using congrArg String.toList same
  calc
    value = Nat.ofDigitChars 10 (Nat.toDigits 10 value) 0 := Nat.ofDigitChars_ten_toDigits.symm
    _ = Nat.ofDigitChars 10 (Nat.toDigits 10 other) 0 := by rw [digits]
    _ = other := Nat.ofDigitChars_ten_toDigits

theorem ofDigitChars_zeros_toDigits (zeros value : Nat) :
    Nat.ofDigitChars 10 (List.replicate zeros '0' ++ Nat.toDigits 10 value) 0 = value := by
  rw [Nat.ofDigitChars_append, Nat.ofDigitChars_replicate_zero, Nat.mul_zero,
    Nat.ofDigitChars_ten_toDigits]

theorem toList_zeroPadded (width value : Nat) :
    (zeroPadded width value).toList =
      List.replicate (width - (Nat.toDigits 10 value).length) '0' ++ Nat.toDigits 10 value := by
  simp only [zeroPadded, padLeft, ofNat, String.toList_append, String.toList_ofList,
    String.length_ofList]

theorem length_zeroPadded {width value : Nat} (positive : 0 < width) (fits : value < Nat.pow 10 width) :
    (zeroPadded width value).toList.length = width := by
  have short := (Nat.length_toDigits_le_iff (by decide) positive).mpr fits
  rw [toList_zeroPadded, List.length_append, List.length_replicate]
  omega

theorem value_eq_ofDigitChars (digits : List Char) :
    value digits = Nat.ofDigitChars 10 digits 0 := by
  simp only [value, Nat.ofDigitChars, digitValue, Nat.mul_comm 10]

theorem value_zeroPadded (width number : Nat) :
    value (zeroPadded width number).toList = number := by
  rw [value_eq_ofDigitChars, toList_zeroPadded, ofDigitChars_zeros_toDigits]

theorem all_isDigit_zeroPadded (width number : Nat) :
    (zeroPadded width number).toList.all isDigit = true := by
  rw [toList_zeroPadded, List.all_append, Bool.and_eq_true]
  constructor
  · simp [List.all_replicate, show isDigit '0' = true by decide]
  · rw [List.all_eq_true]
    intro digit member
    have decimal : digit.isDigit = true :=
      Nat.isDigit_of_mem_toDigits (by decide) (by decide) member
    simpa [isDigit, Char.isDigit, Char.le_def] using decimal

theorem not_mem_zeroPadded {character : Char} (other : character.isDigit = false)
    (width value : Nat) : character ∉ (zeroPadded width value).toList := by
  rw [toList_zeroPadded]
  intro member
  have digit : character.isDigit = true := by
    rcases List.mem_append.mp member with zero | inside
    · rw [List.eq_of_mem_replicate zero]
      decide
    · exact Nat.isDigit_of_mem_toDigits (by decide) (by decide) inside
  rw [other] at digit
  cases digit

theorem zeroPadded_injective {width value other : Nat}
    (same : zeroPadded width value = zeroPadded width other) : value = other := by
  have digits := congrArg (fun text => Nat.ofDigitChars 10 text.toList 0) same
  simpa only [toList_zeroPadded, ofDigitChars_zeros_toDigits] using digits

end Archivist.Numeral
