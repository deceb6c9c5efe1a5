import Archivist.Json.Members
import Archivist.Json.Reader
import Archivist.Json.Writer

set_option autoImplicit false

namespace Archivist.Json

open Text (Rest)

variable {rest : Rest} {fuel : Nat}

/-- Two hexadecimal digits behind two zeros denote a control character. -/
theorem hexNumber?_control (value : Nat) (control : value < 32) :
    Text.hexNumber? 4 ('0' :: '0' :: hexDigit (value / 16) :: hexDigit (value % 16) :: rest) =
      some (value, rest) := by
  have digits : ∀ value < 32, ['0', '0', hexDigit (value / 16), hexDigit (value % 16)].filterMap
      Text.hexDigit? = [0, 0, value / 16, value % 16] := by decide
  simp [Text.hexNumber?, digits value control]
  omega

/-- However a character is written, it is read back in one step. -/
theorem readString_escape (character : Char) :
    readString (fuel + 1) (escape character ++ rest) =
      (readString fuel rest).map fun read => (character :: read.1, read.2) := by
  unfold escape
  split
  iterate 5 simp [readString, readEscape]
  · rename_i quote slash newline carriage tab
    split
    · rename_i same
      simp [readString, readEscape, same]
    · split
      · rename_i same
        simp [readString, readEscape, same]
      · split
        · rename_i control
          have low : ¬ (0xDC00 ≤ character.toNat ∧ character.toNat ≤ 0xDFFF) := by omega
          have high : ¬ (0xD800 ≤ character.toNat ∧ character.toNat ≤ 0xDBFF) := by omega
          simp [readString, readEscape, hexNumber?_control character.toNat control, low, high]
        · rename_i printed
          have unquoted : character ≠ '"' := quote
          have unslashed : character ≠ '\\' := slash
          simp only [List.singleton_append, readString, unquoted, unslashed, printed, ↓reduceIte]

theorem readString_escapeAll (text : List Char) (rest : Rest) (enough : text.length < fuel) :
    readString fuel (escapeAll text ++ '"' :: rest) = some (text, rest) := by
  induction text generalizing fuel with
  | nil =>
    obtain ⟨fuel, rfl⟩ := Nat.exists_eq_succ_of_ne_zero (Nat.ne_of_gt enough)
    simp [escapeAll, readString]
  | cons character text ih =>
    rw [List.length_cons] at enough
    obtain ⟨fuel, rfl⟩ := Nat.exists_eq_succ_of_ne_zero (Nat.ne_of_gt (Nat.zero_lt_of_lt enough))
    have later := ih (show text.length < fuel by omega)
    rw [escapeAll, List.flatMap_cons, List.append_assoc, readString_escape]
    rw [escapeAll] at later
    simp [later]

theorem length_le_escapeAll (text : List Char) : text.length ≤ (escapeAll text).length := by
  have one (character : Char) : 1 ≤ (escape character).length := by
    unfold escape
    split
    iterate 5 simp
    · split
      · simp
      · split
        · simp
        · split <;> simp
  induction text with
  | nil => simp
  | cons character text ih =>
    rw [escapeAll, List.flatMap_cons, List.length_append, List.length_cons]
    rw [escapeAll] at ih
    have first := one character
    omega

theorem toList_quoted (text : String) :
    (quoted text).toList = '"' :: (escapeAll text.toList ++ ['"']) := by
  simp [quoted]

/-- A text is read as a value whatever follows, where values may nest so deep. -/
def IsReadAs (text : List Char) (depth : Nat) (value : Value) : Prop :=
  ∀ (fuel room : Nat) (rest : Rest), text.length ≤ fuel → depth ≤ room →
    readValue fuel room (text ++ rest) = some (value, rest)

theorem isReadAs_quoted (text : String) (depth : Nat) :
    IsReadAs (quoted text).toList depth (.text text) := by
  intro fuel room rest enough _
  have shorter := length_le_escapeAll text.toList
  rw [toList_quoted] at enough ⊢
  simp only [List.length_cons, List.length_append, List.length_nil] at enough
  obtain ⟨fuel, rfl⟩ := Nat.exists_eq_succ_of_ne_zero (n := fuel) (by omega)
  have read := readString_escapeAll text.toList rest (show text.toList.length < fuel + 1 by omega)
  simp [readValue, skipBlank, read]

section Members

variable {depth room : Nat} {known : List (String × Value)}

theorem readMembers_member {key : String} {text : List Char} {value : Value} {tail : Rest}
    (reads : IsReadAs text depth value) (enough : (quoted key).toList.length + text.length ≤ fuel)
    (deep : depth ≤ room) :
    readMembers (fuel + 1) room known ((quoted key).toList ++ ':' :: (text ++ '\x7d' :: tail)) =
        some (insertMember key value known, tail) ∧
      readMembers (fuel + 1) room known ((quoted key).toList ++ ':' :: (text ++ ',' :: tail)) =
        readMembers fuel room (insertMember key value known) tail := by
  have shorter := length_le_escapeAll key.toList
  rw [toList_quoted] at enough ⊢
  simp only [List.length_cons, List.length_append, List.length_nil] at enough
  have named (tail : Rest) := readString_escapeAll key.toList (':' :: (text ++ tail))
    (show key.toList.length < fuel + 1 by omega)
  have read (tail : Rest) := reads fuel room tail (by omega) deep
  constructor <;> simp [readMembers, skipBlank, named, read]

theorem toList_compactMembers_singleton (key : String) (value : Value) :
    (compactMembers [(key, value)]).toList =
      (quoted key).toList ++ ':' :: value.compact.toList := by
  simp [compactMembers]

theorem toList_compactMembers_cons (key : String) (value : Value) (other : String × Value)
    (others : List (String × Value)) :
    (compactMembers ((key, value) :: other :: others)).toList =
      (quoted key).toList ++
        ':' :: (value.compact.toList ++ ',' :: (compactMembers (other :: others)).toList) := by
  simp [compactMembers]

theorem exists_quote_of_members {members : List (String × Value)} (some : members ≠ []) :
    ∃ tail, (compactMembers members).toList = '"' :: tail := by
  match members with
  | [(key, value)] => exact ⟨_, by rw [toList_compactMembers_singleton, toList_quoted]; rfl⟩
  | (key, value) :: other :: others =>
    exact ⟨_, by rw [toList_compactMembers_cons, toList_quoted]; rfl⟩

theorem readMembers_compactMembers {members : List (String × Value)} {rest : Rest}
    (some : members ≠ []) (reads : ∀ member ∈ members,
      IsReadAs member.2.compact.toList depth member.2)
    (enough : (compactMembers members).toList.length < fuel) (deep : depth ≤ room) :
    readMembers fuel room known ((compactMembers members).toList ++ '\x7d' :: rest) =
      .some (members.foldl (fun known member => insertMember member.1 member.2 known) known,
        rest) := by
  -- Each member is read in one step, which the fuel has room for.
  induction members generalizing fuel known with
  | nil => exact absurd rfl some
  | cons member others ih =>
    obtain ⟨key, value⟩ := member
    obtain ⟨read, further⟩ := List.forall_mem_cons.mp reads
    change IsReadAs value.compact.toList depth value at read
    obtain ⟨fuel, rfl⟩ := Nat.exists_eq_succ_of_ne_zero (n := fuel) (by omega)
    cases others with
    | nil =>
      rw [toList_compactMembers_singleton] at enough ⊢
      simp only [List.length_append, List.length_cons] at enough
      rw [List.append_assoc, List.cons_append]
      exact (readMembers_member read (by omega) deep).1
    | cons other others =>
      rw [toList_compactMembers_cons] at enough ⊢
      simp only [List.length_append, List.length_cons] at enough
      simp only [List.append_assoc, List.cons_append]
      rw [(readMembers_member read (by omega) deep).2]
      exact ih (List.cons_ne_nil other others) further (by omega)

theorem insertMember_last {key : String} {value : Value} {members : List (String × Value)}
    (before : ∀ member ∈ members, member.1 < key) :
    insertMember key value members = members ++ [(key, value)] := by
  induction members with
  | nil => rfl
  | cons first rest ih =>
    obtain ⟨smaller, others⟩ := List.forall_mem_cons.mp before
    have notAfter : ¬ key < first.1 := String.lt_asymm smaller
    have different : key ≠ first.1 := by
      rintro rfl
      exact String.lt_irrefl _ smaller
    simp [insertMember, notAfter, different, ih others]

theorem foldl_insertMember {members : List (String × Value)}
    (ascending : Ascending (known ++ members)) :
    members.foldl (fun known member => insertMember member.1 member.2 known) known =
      known ++ members := by
  induction members generalizing known with
  | nil => simp
  | cons member rest ih =>
    have before := fun held inside =>
      (List.pairwise_append.mp ascending).2.2 held inside member List.mem_cons_self
    have moved : known ++ member :: rest = (known ++ [member]) ++ rest := by simp
    rw [List.foldl_cons, insertMember_last before, moved]
    rw [moved] at ascending
    exact ih ascending

theorem isReadAs_object {members : List (String × Value)} (some : members ≠ [])
    (positive : 0 < depth) (ascending : Ascending members)
    (reads : ∀ member ∈ members, IsReadAs member.2.compact.toList depth member.2) :
    IsReadAs (Value.object members).compact.toList (depth + 1) (.object members) := by
  intro fuel room rest enough deep
  have written : (Value.object members).compact.toList =
      '\x7b' :: ((compactMembers members).toList ++ ['\x7d']) := by
    simp [Value.compact]
  rw [written] at enough ⊢
  simp only [List.length_cons, List.length_append, List.length_nil] at enough
  obtain ⟨fuel, rfl⟩ := Nat.exists_eq_succ_of_ne_zero (n := fuel) (by omega)
  obtain ⟨room, rfl⟩ := Nat.exists_eq_add_of_le' (show 2 ≤ room by omega)
  have read : readMembers fuel (room + 1) [] ((compactMembers members).toList ++ '\x7d' :: rest) =
      .some (members, rest) := by
    have sorted : Ascending ([] ++ members) := ascending
    rw [readMembers_compactMembers some reads (by omega) (by omega), foldl_insertMember sorted,
      List.nil_append]
  obtain ⟨tail, begun⟩ := exists_quote_of_members some
  rw [begun] at read ⊢
  simp only [List.cons_append, List.append_assoc, List.nil_append] at read ⊢
  simp [readValue, skipBlank, read]

end Members

theorem read_of_isReadAs {text : String} {depth : Nat} {value : Value}
    (reads : IsReadAs text.toList depth value) (deep : depth ≤ 128) : read text = some value := by
  have all := reads (2 * text.toList.length + 2) 128 [] (by omega) deep
  rw [List.append_nil] at all
  simp only [read, all, skipBlank, ↓reduceIte]

mutual

/-- Whether two values are the same, so that what a given text is read as can be decided. -/
def Value.same : Value → Value → Bool
  | .null, .null => true
  | .bool left, .bool right => left = right
  | .number left, .number right => left = right
  | .text left, .text right => left = right
  | .array left, .array right => sameItems left right
  | .object left, .object right => sameMembers left right
  | _, _ => false

def sameItems : List Value → List Value → Bool
  | [], [] => true
  | left :: lefts, right :: rights => left.same right && sameItems lefts rights
  | _, _ => false

def sameMembers : List (String × Value) → List (String × Value) → Bool
  | [], [] => true
  | (key, left) :: lefts, (other, right) :: rights =>
    key = other && left.same right && sameMembers lefts rights
  | _, _ => false

end

mutual

theorem Value.same_iff : (left right : Value) → (left.same right = true ↔ left = right)
  | .array left, right => by cases right <;> simp [Value.same, sameItems_iff left]
  | .object left, right => by cases right <;> simp [Value.same, sameMembers_iff left]
  | .null, right | .bool _, right | .number _, right | .text _, right => by
    cases right <;> simp [Value.same]

theorem sameItems_iff : (left right : List Value) → (sameItems left right = true ↔ left = right)
  | [], right => by cases right <;> simp [sameItems]
  | first :: rest, right => by
    cases right with
    | nil => simp [sameItems]
    | cons other others => simp [sameItems, Value.same_iff first, sameItems_iff rest]

theorem sameMembers_iff : (left right : List (String × Value)) →
    (sameMembers left right = true ↔ left = right)
  | [], right => by cases right <;> simp [sameMembers]
  | (key, first) :: rest, right => by
    cases right with
    | nil => simp [sameMembers]
    | cons other others =>
      simp [sameMembers, Value.same_iff first, sameMembers_iff rest, Prod.ext_iff]

end

instance : DecidableEq Value := fun left right => decidable_of_iff _ (left.same_iff right)

end Archivist.Json
