import Archivist.Calendar.Pattern
import Archivist.Proofs.Numeral

set_option autoImplicit false

namespace Archivist.Calendar.Pattern

theorem readItems_nil : readItems [] = some [] := by
  rw [readItems]

theorem readItems_specifier {rest : List Char} {items : Pattern} {size : Nat}
    (specified : readSpecifier rest = some (items, size)) :
    readItems ('%' :: rest) = (readItems (rest.drop size)).map (items ++ ·) := by
  rw [readItems, specified]

theorem readItems_literal {character : Char} (plain : character ≠ '%') (rest : List Char) :
    readItems (character :: rest) = (readItems rest).map (.literal [character] :: ·) := by
  rw [readItems]
  exact plain

theorem twoPlaces_zeros {value : Nat} (small : value < 100) :
    twoPlaces value .zeros = Numeral.zeroPadded 2 value := by
  have all : ∀ value < 100, twoPlaces value .zeros = Numeral.zeroPadded 2 value := by
    decide +kernel
  exact all value small

theorem yearText_zeros {year : Int} (begun : 0 ≤ year) (ended : year ≤ 9999) :
    yearText year .zeros = Numeral.zeroPadded 4 year.natAbs :=
  if_pos ⟨begun, ended⟩

end Archivist.Calendar.Pattern
