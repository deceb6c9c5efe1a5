import Archivist.Json.Writer

set_option autoImplicit false

namespace Archivist

/-- A text without control characters below U+0020. -/
def Text.IsPlain (text : List Char) : Prop := ∀ character ∈ text, 32 ≤ character.toNat

namespace Text

variable {first second : List Char} {character : Char}

@[simp] theorem isPlain_nil : IsPlain [] := List.forall_mem_nil _

@[simp] theorem isPlain_cons : IsPlain (character :: first) ↔
    32 ≤ character.toNat ∧ IsPlain first := List.forall_mem_cons

@[simp] theorem isPlain_append : IsPlain (first ++ second) ↔ IsPlain first ∧ IsPlain second :=
  List.forall_mem_append

theorem IsPlain.of_subset (plain : IsPlain second) (inside : first ⊆ second) : IsPlain first :=
  fun _ member => plain _ (inside member)

theorem IsPlain.not_mem_newline (plain : IsPlain first) : '\n' ∉ first := by
  intro member
  have printed := plain '\n' member
  simp at printed

end Text

open Text (IsPlain)

@[simp] theorem Numeral.isPlain_toDigits (value : Nat) : IsPlain (Nat.toDigits 10 value) := by
  intro character member
  have digit := Nat.isDigit_of_mem_toDigits (by decide) (by decide) member
  simp only [Char.isDigit, Bool.and_eq_true, decide_eq_true_eq] at digit
  have least : 48 ≤ character.toNat := digit.1
  omega

@[simp] theorem Numeral.isPlain_ofInt (value : Int) : IsPlain (Numeral.ofInt value).toList := by
  unfold Numeral.ofInt Numeral.ofNat
  split <;> simp

namespace Binary64

@[simp] theorem isPlain_zeros (count : Nat) : IsPlain (List.replicate count '0') := by
  intro character member
  simp [List.eq_of_mem_replicate member]

theorem isPlain_decimal (decimal : Decimal) : IsPlain decimal.text.toList := by
  have digits := Numeral.isPlain_toDigits decimal.digits
  have front (count : Nat) := digits.of_subset (List.take_subset count _)
  have back (count : Nat) := digits.of_subset (List.drop_subset count _)
  unfold Decimal.text
  dsimp only
  split
  · split
    · simp
    · split <;> simp [front, back]
  · have power (value : Int) : IsPlain (Decimal.powerText value).toList := by
      unfold Decimal.powerText
      split <;> simp
    have later := back 1
    generalize (Nat.toDigits 10 decimal.digits).drop 1 = fraction at later ⊢
    cases fraction with
    | nil => simp [front, power]
    | cons first rest => simpa [front, power] using later

@[simp] theorem isPlain_text (value : Binary64) : IsPlain value.text.toList := by
  unfold text
  split <;> split <;> simp [isPlain_decimal]

end Binary64

namespace Json

@[simp] theorem Number.isPlain_text (number : Number) : IsPlain number.text.toList := by
  cases number <;> simp [Number.text]

theorem isPlain_hexDigit : ∀ value < 16, 32 ≤ (hexDigit value).toNat := by decide

theorem isPlain_escape (character : Char) : IsPlain (escape character) := by
  unfold escape
  split
  iterate 5 simp
  · split
    · simp
    · split
      · simp
      · split
        · have high := isPlain_hexDigit (character.toNat / 16) (by omega)
          have low := isPlain_hexDigit (character.toNat % 16) (by omega)
          simp [high, low]
        · simp; omega

@[simp] theorem isPlain_quoted (text : String) : IsPlain (quoted text).toList := by
  have escaped : IsPlain (escapeAll text.toList) := by
    intro character member
    obtain ⟨written, _, inside⟩ := List.mem_flatMap.mp member
    exact isPlain_escape written character inside
  simp [quoted, escaped]

mutual

/-- By recursion on the value, as it is written. -/
theorem isPlain_compact : (value : Value) → IsPlain value.compact.toList
  | .null => by simp [Value.compact]
  | .bool true => by simp [Value.compact]
  | .bool false => by simp [Value.compact]
  | .number value => by simp [Value.compact]
  | .text value => by simp [Value.compact]
  | .array items => by simp [Value.compact, isPlain_compactItems items]
  | .object members => by simp [Value.compact, isPlain_compactMembers members]

theorem isPlain_compactItems : (items : List Value) → IsPlain (compactItems items).toList
  | [] => by simp [compactItems]
  | [item] => by simp [compactItems, isPlain_compact item]
  | item :: other :: rest => by
    simp [compactItems, isPlain_compact item, isPlain_compactItems (other :: rest)]

theorem isPlain_compactMembers :
    (members : List (String × Value)) → IsPlain (compactMembers members).toList
  | [] => by simp [compactMembers]
  | [(key, value)] => by simp [compactMembers, isPlain_compact value]
  | (key, value) :: other :: rest => by
    simp [compactMembers, isPlain_compact value, isPlain_compactMembers (other :: rest)]

end

end Json

end Archivist
