import Archivist.Sorting
import Mathlib.Data.List.Basic

set_option autoImplicit false

namespace Archivist.Sorting

variable {α : Type}

/-- Among some items a comparison is that of an order in which several of them may have one place. -/
structure Orders (precedes : α → α → Bool) (among : α → Prop) : Prop where
  asymm : ∀ left right, among left → among right → precedes left right = true →
    precedes right left = false
  between : ∀ left middle right, among left → among middle → among right →
    precedes left right = true → precedes left middle = true ∨ precedes middle right = true

/-- No item precedes one that is in front of it. -/
def Sorted (precedes : α → α → Bool) (items : List α) : Prop :=
  items.Pairwise fun left right => precedes right left = false

theorem Sorted.append {precedes : α → α → Bool} {left right : List α}
    (first : Sorted precedes left) (second : Sorted precedes right)
    (below : ∀ item ∈ left, ∀ other ∈ right, precedes other item = false) :
    Sorted precedes (left ++ right) :=
  List.pairwise_append.mpr ⟨first, second, below⟩

theorem sorted_of_length_le {precedes : α → α → Bool} {items : List α} (few : items.length ≤ 1) :
    Sorted precedes items := by
  match items, few with
  | [], _ => exact List.Pairwise.nil
  | [item], _ => exact List.pairwise_singleton _ item

namespace Orders

variable {precedes : α → α → Bool} {among : α → Prop}

theorem trans (orders : Orders precedes among) {left middle right : α} (isLeft : among left)
    (isMiddle : among middle) (isRight : among right) (first : precedes middle left = false)
    (second : precedes right middle = false) : precedes right left = false := by
  by_contra above
  rw [Bool.not_eq_false] at above
  rcases orders.between right middle left isRight isMiddle isLeft above with after | before
  · simp [after] at second
  · simp [before] at first

theorem irrefl (orders : Orders precedes among) {item : α} (known : among item) :
    precedes item item = false := by
  cases same : precedes item item with
  | false => rfl
  | true => exact same.symm.trans (orders.asymm item item known known same)

theorem mono (orders : Orders precedes among) {fewer : α → Prop}
    (within : ∀ item, fewer item → among item) : Orders precedes fewer where
  asymm left right isLeft isRight :=
    orders.asymm left right (within left isLeft) (within right isRight)
  between left middle right isLeft isMiddle isRight :=
    orders.between left middle right (within left isLeft) (within middle isMiddle)
      (within right isRight)

theorem backward (orders : Orders precedes among) :
    Orders (Sorting.backward precedes) among where
  asymm left right isLeft isRight := orders.asymm right left isRight isLeft
  between left middle right isLeft isMiddle isRight above :=
    (orders.between right middle left isRight isMiddle isLeft above).symm

end Orders

theorem sorted_reverse {precedes : α → α → Bool} {items : List α} :
    Sorted precedes items.reverse ↔ Sorted (backward precedes) items :=
  List.pairwise_reverse

variable (precedes : α → α → Bool)

section Insertion

theorem insertBack_perm (item : α) (back : List α) :
    (insertBack precedes item back).Perm (item :: back) := by
  induction back with
  | nil => exact List.Perm.refl _
  | cons last front ih =>
    simp only [insertBack]
    split
    · exact (ih.cons last).trans (List.Perm.swap item last front)
    · exact List.Perm.refl _

theorem extend_perm (sorted items : List α) :
    (extend precedes sorted items).Perm (sorted ++ items) := by
  suffices inserted : ∀ back : List α,
      (items.foldl (fun back item => insertBack precedes item back) back).Perm (items ++ back) by
    apply (List.reverse_perm _).trans
    apply (inserted sorted.reverse).trans
    apply List.perm_append_comm.trans
    exact (List.reverse_perm sorted).append_right items
  intro back
  induction items generalizing back with
  | nil => exact List.Perm.refl _
  | cons item rest ih =>
    apply (ih _).trans
    exact ((insertBack_perm precedes item back).append_left rest).trans List.perm_middle

variable {precedes} {among : α → Prop} (orders : Orders precedes among)
include orders

theorem insertBack_sorted {item : α} {back : List α} (known : among item)
    (all : ∀ other ∈ back, among other) (sorted : Sorted (backward precedes) back) :
    Sorted (backward precedes) (insertBack precedes item back) := by
  induction back with
  | nil => exact List.pairwise_singleton _ _
  | cons last front ih =>
    have isLast := all last List.mem_cons_self
    have isFront : ∀ other ∈ front, among other :=
      fun other member => all other (List.mem_cons_of_mem last member)
    obtain ⟨below, ordered⟩ := List.pairwise_cons.mp sorted
    simp only [insertBack]
    split
    · rename_i before
      apply List.pairwise_cons.mpr
      refine ⟨fun other member => ?_, ih isFront ordered⟩
      rcases List.mem_cons.mp ((insertBack_perm precedes item front).mem_iff.mp member) with
        rfl | behind
      · exact orders.asymm _ _ known isLast before
      · exact below other behind
    · rename_i notBefore
      rw [Bool.not_eq_true] at notBefore
      apply List.pairwise_cons.mpr
      refine ⟨fun other member => ?_, sorted⟩
      rcases List.mem_cons.mp member with rfl | behind
      · exact notBefore
      · exact orders.trans (isFront other behind) isLast known (below other behind) notBefore

theorem extend_sorted {sorted items : List α} (begun : Sorted precedes sorted)
    (all : ∀ item ∈ sorted ++ items, among item) : Sorted precedes (extend precedes sorted items) := by
  suffices inserted : ∀ back : List α, (∀ item ∈ back, among item) →
      Sorted (backward precedes) back → Sorted (backward precedes)
        (items.foldl (fun back item => insertBack precedes item back) back) by
    apply sorted_reverse.mpr
    apply inserted
    · intro item member
      exact all item (List.mem_append_left items (List.mem_reverse.mp member))
    · apply sorted_reverse.mp
      rwa [List.reverse_reverse]
  have new : ∀ item ∈ items, among item :=
    fun item member => all item (List.mem_append_right sorted member)
  clear all
  intro back known ordered
  induction items generalizing back with
  | nil => exact ordered
  | cons item rest ih =>
    have isItem := new item List.mem_cons_self
    apply ih (fun other member => new other (List.mem_cons_of_mem item member))
    · intro other member
      rcases List.mem_cons.mp ((insertBack_perm precedes item back).mem_iff.mp member) with
        rfl | before
      · exact isItem
      · exact known other before
    · exact insertBack_sorted orders isItem known ordered

end Insertion

section Pairs

theorem sortBetween_perm (least left right most : α) :
    (sortBetween precedes least left right most).Perm [least, left, right, most] := by
  rw [sortBetween]
  split
  · exact (List.Perm.swap left right [most]).cons least
  · exact List.Perm.refl _

theorem sortPairs_perm (first second third fourth : α) :
    (sortPairs precedes first second third fourth).Perm [first, second, third, fourth] := by
  classical
  rw [sortPairs]
  split <;> apply (sortBetween_perm precedes _ _ _ _).trans <;> rw [List.perm_iff_count] <;>
    intro item <;> simp only [List.count_cons] <;> omega

theorem sortFour_perm (first second third fourth : α) :
    (sortFour precedes first second third fourth).Perm [first, second, third, fourth] := by
  classical
  rw [sortFour]
  split <;> apply (sortPairs_perm precedes _ _ _ _).trans <;> rw [List.perm_iff_count] <;>
    intro item <;> simp only [List.count_cons] <;> omega

variable {precedes} {among : α → Prop} (orders : Orders precedes among)
include orders

theorem sortBetween_sorted {least left right most : α} (isLeft : among left)
    (isRight : among right) (leastLeft : precedes left least = false)
    (leastRight : precedes right least = false) (leastMost : precedes most least = false)
    (leftMost : precedes most left = false) (rightMost : precedes most right = false) :
    Sorted precedes (sortBetween precedes least left right most) := by
  rw [sortBetween]
  split
  · rename_i before
    have after := orders.asymm _ _ isRight isLeft before
    simp [Sorted, *]
  · rename_i notBefore
    rw [Bool.not_eq_true] at notBefore
    simp [Sorted, *]

theorem sortPairs_sorted {first second third fourth : α} (isFirst : among first)
    (isSecond : among second) (isThird : among third) (isFourth : among fourth)
    (left : precedes second first = false) (right : precedes fourth third = false) :
    Sorted precedes (sortPairs precedes first second third fourth) := by
  have ends : precedes third first = true → precedes first third = false :=
    orders.asymm _ _ isThird isFirst
  have tops : precedes fourth second = true → precedes second fourth = false :=
    orders.asymm _ _ isFourth isSecond
  rw [sortPairs]
  split <;> rename_i low high
  · exact sortBetween_sorted orders isSecond isThird left low
      (orders.trans isFirst isThird isFourth low right) high right
  · exact sortBetween_sorted orders isThird isFourth low
      (orders.trans isFirst isThird isFourth low right) left
      (orders.trans isThird isFourth isSecond right (tops high)) (tops high)
  · exact sortBetween_sorted orders isFirst isSecond (ends low)
      (orders.trans isThird isFirst isSecond (ends low) left) right
      (orders.trans isFirst isSecond isFourth left high) high
  · exact sortBetween_sorted orders isFirst isFourth (ends low) right
      (orders.trans isThird isFirst isSecond (ends low) left) left (tops high)

theorem sortFour_sorted {first second third fourth : α} (isFirst : among first)
    (isSecond : among second) (isThird : among third) (isFourth : among fourth) :
    Sorted precedes (sortFour precedes first second third fourth) := by
  have left : precedes second first = true → precedes first second = false :=
    orders.asymm _ _ isSecond isFirst
  have right : precedes fourth third = true → precedes third fourth = false :=
    orders.asymm _ _ isFourth isThird
  rw [sortFour]
  split <;> rename_i low high
  · exact sortPairs_sorted orders isFirst isSecond isThird isFourth low high
  · exact sortPairs_sorted orders isFirst isSecond isFourth isThird low (right high)
  · exact sortPairs_sorted orders isSecond isFirst isThird isFourth (left low) high
  · exact sortPairs_sorted orders isSecond isFirst isFourth isThird (left low) (right high)

end Pairs

section Merging

variable {precedes} {left right : List α} {count : Nat}

theorem mergeSome_right {next : α} (before : ∀ item ∈ left.head?, precedes next item = true) :
    mergeSome precedes (count + 1) left (next :: right) =
      (next :: (mergeSome precedes count left right).1, (mergeSome precedes count left right).2) := by
  cases left with
  | nil => rfl
  | cons first left => rw [mergeSome, if_pos (before first rfl)]

theorem mergeSome_left {first : α} (behind : ∀ item ∈ right.head?, precedes item first = false) :
    mergeSome precedes (count + 1) (first :: left) right =
      (first :: (mergeSome precedes count left right).1,
        (mergeSome precedes count left right).2) := by
  cases right with
  | nil => rfl
  | cons next right =>
    rw [mergeSome, if_neg]
    simp [behind next rfl]

/-- The next item is taken from the right when it precedes what is on the left, if anything is. -/
theorem next_of_lists (precedes : α → α → Bool) (left right : List α)
    (some : 0 < left.length + right.length) :
    (∃ next rest, right = next :: rest ∧ ∀ item ∈ left.head?, precedes next item = true) ∨
      ∃ first rest, left = first :: rest ∧ ∀ item ∈ right.head?, precedes item first = false := by
  match left, right with
  | [], [] => simp at some
  | [], next :: right => exact Or.inl ⟨next, right, rfl, by simp⟩
  | first :: left, [] => exact Or.inr ⟨first, left, rfl, by simp⟩
  | first :: left, next :: right =>
    cases before : precedes next first with
    | true => exact Or.inl ⟨next, right, rfl, by simp [before]⟩
    | false => exact Or.inr ⟨first, left, rfl, by simp [before]⟩

theorem length_mergeSome (precedes : α → α → Bool)
    (enough : count ≤ left.length + right.length) :
    (mergeSome precedes count left right).1.length = count := by
  induction count generalizing left right with
  | zero => rfl
  | succ count ih =>
    rcases next_of_lists precedes left right (by omega) with
      ⟨next, right, rfl, before⟩ | ⟨first, left, rfl, behind⟩
    · simp only [List.length_cons] at enough
      simp only [mergeSome_right before, List.length_cons]
      rw [ih (by omega)]
    · simp only [List.length_cons] at enough
      simp only [mergeSome_left behind, List.length_cons]
      rw [ih (by omega)]

/-- What is taken are the fronts of both lists. -/
theorem mergeSome_split (precedes : α → α → Bool) (enough : count ≤ left.length + right.length) :
    ∃ taken others, left = taken ++ (mergeSome precedes count left right).2.1 ∧
      right = others ++ (mergeSome precedes count left right).2.2 ∧
      (mergeSome precedes count left right).1.Perm (taken ++ others) := by
  induction count generalizing left right with
  | zero => exact ⟨[], [], rfl, rfl, List.Perm.refl _⟩
  | succ count ih =>
    rcases next_of_lists precedes left right (by omega) with
      ⟨next, right, rfl, before⟩ | ⟨first, left, rfl, behind⟩
    · simp only [List.length_cons] at enough
      obtain ⟨taken, others, front, back, same⟩ := ih (show count ≤ left.length + right.length by omega)
      rw [mergeSome_right before]
      exact ⟨taken, next :: others, front, congrArg (next :: ·) back,
        (same.cons next).trans List.perm_middle.symm⟩
    · simp only [List.length_cons] at enough
      obtain ⟨taken, others, front, back, same⟩ := ih (show count ≤ left.length + right.length by omega)
      rw [mergeSome_left behind]
      exact ⟨first :: taken, others, congrArg (first :: ·) front, back, same.cons first⟩

theorem mergeSome_perm (precedes : α → α → Bool) (enough : count ≤ left.length + right.length) :
    ((mergeSome precedes count left right).1 ++ ((mergeSome precedes count left right).2.1 ++
      (mergeSome precedes count left right).2.2)).Perm (left ++ right) := by
  classical
  obtain ⟨taken, others, front, back, same⟩ := mergeSome_split precedes enough
  generalize mergeSome precedes count left right = merged at *
  subst front back
  rw [List.perm_iff_count] at same ⊢
  intro item
  have counted := same item
  simp only [List.count_append] at counted ⊢
  omega

theorem length_rest_mergeSome (precedes : α → α → Bool)
    (enough : count ≤ left.length + right.length) :
    count + ((mergeSome precedes count left right).2.1.length +
      (mergeSome precedes count left right).2.2.length) = left.length + right.length := by
  have whole := (mergeSome_perm precedes enough).length_eq
  simpa only [List.length_append, length_mergeSome precedes enough] using whole

theorem rest_mergeSome (precedes : α → α → Bool) (enough : count ≤ left.length + right.length) :
    (mergeSome precedes count left right).2.1 <:+ left ∧
      (mergeSome precedes count left right).2.2 <:+ right := by
  obtain ⟨taken, others, front, back, _⟩ := mergeSome_split precedes enough
  exact ⟨⟨taken, front.symm⟩, ⟨others, back.symm⟩⟩

theorem mergeUp_perm (precedes : α → α → Bool) (left right : List α) :
    (mergeUp precedes left right).Perm (left ++ right) := by
  have whole := mergeSome_perm precedes (Nat.le_refl (left.length + right.length))
  have none := length_rest_mergeSome precedes (Nat.le_refl (left.length + right.length))
  rw [mergeUp]
  rw [List.eq_nil_of_length_eq_zero (l := (mergeSome precedes _ left right).2.1) (by omega),
    List.eq_nil_of_length_eq_zero (l := (mergeSome precedes _ left right).2.2) (by omega),
    List.append_nil, List.append_nil] at whole
  exact whole

/-- Merging does not go past items that come after what is beyond the one list, and before what is
beyond the other one. -/
theorem mergeSome_within {beyond further : List α} (enough : count ≤ left.length + right.length)
    (above : ∀ item ∈ left, ∀ other ∈ further, precedes other item = false)
    (below : ∀ item ∈ beyond, ∀ other ∈ right, precedes other item = true) :
    mergeSome precedes count (left ++ beyond) (right ++ further) =
      ((mergeSome precedes count left right).1,
        (mergeSome precedes count left right).2.1 ++ beyond,
        (mergeSome precedes count left right).2.2 ++ further) := by
  induction count generalizing left right with
  | zero => rfl
  | succ count ih =>
    rcases next_of_lists precedes left right (by omega) with
      ⟨next, right, rfl, before⟩ | ⟨first, left, rfl, behind⟩
    · have still : ∀ item ∈ (left ++ beyond).head?, precedes next item = true := by
        cases left with
        | nil => exact fun item here => below item (List.mem_of_mem_head? here) next (by simp)
        | cons first left => exact before
      simp only [List.length_cons] at enough
      rw [List.cons_append, mergeSome_right still, mergeSome_right before,
        ih (by omega) above fun item member other also => below item member other (by simp [also])]
    · have still : ∀ item ∈ (right ++ further).head?, precedes item first = false := by
        cases right with
        | nil => exact fun item here => above first (by simp) item (List.mem_of_mem_head? here)
        | cons next right => exact behind
      simp only [List.length_cons] at enough
      rw [List.cons_append, mergeSome_left still, mergeSome_left behind,
        ih (by omega) (fun item member => above item (by simp [member])) below]

/-- What has been merged is sorted, and nothing that is left precedes it. -/
structure Settled (precedes : α → α → Bool) (merged : List α × List α × List α) : Prop where
  sorted : Sorted precedes merged.1
  least : ∀ item ∈ merged.1, ∀ other ∈ merged.2.1 ++ merged.2.2, precedes other item = false

/-- An item that none of two lists precedes is taken before what is merged from them. -/
theorem Settled.cons {item : α} (settled : Settled precedes (mergeSome precedes count left right))
    (enough : count ≤ left.length + right.length)
    (first : ∀ other ∈ left ++ right, precedes other item = false) :
    Settled precedes (item :: (mergeSome precedes count left right).1,
      (mergeSome precedes count left right).2) := by
  have fromLists : ∀ other, other ∈ (mergeSome precedes count left right).1 ++
      ((mergeSome precedes count left right).2.1 ++ (mergeSome precedes count left right).2.2) →
      precedes other item = false :=
    fun other member => first other ((mergeSome_perm precedes enough).mem_iff.mp member)
  constructor
  · apply List.pairwise_cons.mpr
    exact ⟨fun other member => fromLists other (List.mem_append_left _ member), settled.sorted⟩
  · intro taken member other rest
    rcases List.mem_cons.mp member with rfl | later
    · exact fromLists other (List.mem_append_right _ rest)
    · exact settled.least taken later other rest

variable {among : α → Prop} (orders : Orders precedes among)
include orders

theorem precedes_of_head {next : α} (isNext : among next) (known : ∀ item ∈ left, among item)
    (sorted : Sorted precedes left) (before : ∀ item ∈ left.head?, precedes next item = true) :
    ∀ item ∈ left, precedes next item = true := by
  intro item member
  cases left with
  | nil => simp at member
  | cons first left =>
    have below := before first rfl
    rcases List.mem_cons.mp member with rfl | later
    · exact below
    · have ordered := (List.pairwise_cons.mp sorted).1 item later
      rcases orders.between next item first isNext (known item member) (known first (by simp))
        below with done | above
      · exact done
      · simp [above] at ordered

theorem not_precedes_of_head {first : α} (isFirst : among first)
    (known : ∀ item ∈ right, among item) (sorted : Sorted precedes right)
    (behind : ∀ item ∈ right.head?, precedes item first = false) :
    ∀ item ∈ right, precedes item first = false := by
  intro item member
  cases right with
  | nil => simp at member
  | cons next right =>
    have above := behind next rfl
    rcases List.mem_cons.mp member with rfl | later
    · exact above
    · exact orders.trans isFirst (known next (by simp)) (known item member) above
        ((List.pairwise_cons.mp sorted).1 item later)

theorem mergeSome_settled (enough : count ≤ left.length + right.length)
    (known : ∀ item ∈ left, among item) (also : ∀ item ∈ right, among item)
    (leftSorted : Sorted precedes left) (rightSorted : Sorted precedes right) :
    Settled precedes (mergeSome precedes count left right) := by
  induction count generalizing left right with
  | zero => exact ⟨List.Pairwise.nil, by simp [mergeSome]⟩
  | succ count ih =>
    rcases next_of_lists precedes left right (by omega) with
      ⟨next, right, rfl, before⟩ | ⟨first, left, rfl, behind⟩
    · simp only [List.length_cons] at enough
      have isNext := also next (by simp)
      have rest : ∀ item ∈ right, among item := fun item member => also item (by simp [member])
      obtain ⟨least, sorted⟩ := List.pairwise_cons.mp rightSorted
      rw [mergeSome_right before]
      apply (ih (by omega) known rest leftSorted sorted).cons (by omega)
      intro other member
      rcases List.mem_append.mp member with onLeft | onRight
      · exact orders.asymm _ _ isNext (known other onLeft)
          (precedes_of_head orders isNext known leftSorted before other onLeft)
      · exact least other onRight
    · simp only [List.length_cons] at enough
      have isFirst := known first (by simp)
      have rest : ∀ item ∈ left, among item := fun item member => known item (by simp [member])
      obtain ⟨least, sorted⟩ := List.pairwise_cons.mp leftSorted
      rw [mergeSome_left behind]
      apply (ih (by omega) rest also sorted rightSorted).cons (by omega)
      intro other member
      rcases List.mem_append.mp member with onLeft | onRight
      · exact least other onLeft
      · exact not_precedes_of_head orders isFirst also rightSorted behind other onRight

theorem mergeSome_apart {others : List α} (enough : count ≤ left.length + right.length)
    (known : ∀ item ∈ left, among item) (also : ∀ item ∈ right, among item)
    (leftSorted : Sorted precedes left)
    (taken : right = others ++ (mergeSome precedes count left right).2.2) :
    ∀ item ∈ others, ∀ other ∈ (mergeSome precedes count left right).2.1,
      precedes item other = true := by
  induction count generalizing left right others with
  | zero =>
    have none : others = [] := by simpa [mergeSome] using taken
    simp [none]
  | succ count ih =>
    rcases next_of_lists precedes left right (by omega) with
      ⟨next, right, rfl, before⟩ | ⟨first, left, rfl, behind⟩
    · simp only [List.length_cons] at enough
      have isNext := also next (by simp)
      have rest : ∀ item ∈ right, among item := fun item member => also item (by simp [member])
      obtain ⟨fronts, backs, front, back, _⟩ :=
        mergeSome_split precedes (by omega : count ≤ left.length + right.length)
      rw [mergeSome_right before] at taken ⊢
      have whole : others = next :: backs := by
        apply List.append_cancel_right
        rw [← taken, List.cons_append, ← back]
      subst whole
      intro item member other remains
      rcases List.mem_cons.mp member with rfl | later
      · apply precedes_of_head orders isNext known leftSorted before
        rw [front]
        exact List.mem_append_right fronts remains
      · exact ih (by omega) known rest leftSorted back item later other remains
    · simp only [List.length_cons] at enough
      rw [mergeSome_left behind] at taken ⊢
      exact ih (by omega) (fun item member => known item (by simp [member])) also
        (List.pairwise_cons.mp leftSorted).2 taken

end Merging

section Halves

theorem eq_append_middle {whole front rest start back : List α} (first : whole = front ++ rest)
    (second : whole = start ++ back) (covered : whole.length ≤ rest.length + start.length) :
    whole = front ++ rest.take (rest.length + start.length - whole.length) ++ back := by
  have frontSize := congrArg List.length first
  have startSize := congrArg List.length second
  rw [List.length_append] at frontSize startSize
  have behind : rest.drop (rest.length + start.length - whole.length) = back := by
    have left : rest = whole.drop front.length := by rw [first, List.drop_left]
    have right : back = whole.drop start.length := by rw [second, List.drop_left]
    have place : front.length + (rest.length + start.length - whole.length) = start.length := by
      omega
    calc
      _ = (whole.drop front.length).drop (rest.length + start.length - whole.length) :=
        congrArg (List.drop _) left
      _ = back := by rw [List.drop_drop, place, right]
  rw [← behind, List.append_assoc, List.take_append_drop]
  exact first

theorem eq_append_reverse {whole front rest : List α} (same : whole.reverse = front ++ rest) :
    whole = rest.reverse ++ front.reverse := by
  rw [← List.reverse_append, ← same, List.reverse_reverse]

theorem mergeHalves_perm (precedes : α → α → Bool) {left right merged : List α}
    (succeeded : mergeHalves precedes left right = some merged) :
    merged.Perm (left ++ right) := by
  classical
  simp only [mergeHalves] at succeeded
  split at succeeded
  · rename_i covered
    obtain ⟨taken, others, front, back, low⟩ := mergeSome_split precedes
      (show left.length ≤ left.length + right.length by omega)
    obtain ⟨last, lastOthers, lastBack, othersBack, high⟩ := mergeSome_split (backward precedes)
      (show left.length ≤ right.reverse.length + left.reverse.length by simp)
    have leftParts := eq_append_middle front (eq_append_reverse othersBack) (by simpa using covered.1)
    have rightParts := eq_append_middle back (eq_append_reverse lastBack) (by simpa using covered.2)
    rw [List.length_reverse] at leftParts rightParts
    rw [← Option.some.inj succeeded]
    rw [List.perm_iff_count] at low high ⊢
    intro item
    have lowCount := low item
    have highCount := high item
    have leftCount := congrArg (List.count item) leftParts
    have rightCount := congrArg (List.count item) rightParts
    simp only [List.count_append, List.count_reverse] at lowCount highCount leftCount rightCount ⊢
    omega
  · simp at succeeded

section Success

variable {precedes : α → α → Bool} {among : α → Prop} (orders : Orders precedes among)
  {left right : List α} (known : ∀ item ∈ left, among item) (also : ∀ item ∈ right, among item)
  (leftSorted : Sorted precedes left) (rightSorted : Sorted precedes right)
include orders known also leftSorted rightSorted

/-- From the back of sorted halves nothing is taken that was taken from their front. -/
theorem mergeHalves_eq (least : left.length ≤ right.length) :
    let low := mergeSome precedes left.length left right
    let high := mergeSome (backward precedes) left.length low.2.2.reverse low.2.1.reverse
    mergeHalves precedes left right =
      some (low.1 ++ (high.2.2.reverse ++ high.2.1.reverse) ++ high.1.reverse) := by
  have enough : left.length ≤ left.length + right.length := by omega
  obtain ⟨taken, others, front, back, same⟩ := mergeSome_split precedes enough
  have low := mergeSome_settled orders enough known also leftSorted rightSorted
  have apart := mergeSome_apart orders enough known also leftSorted back
  have size := length_rest_mergeSome precedes enough
  rw [mergeHalves]
  generalize mergeSome precedes left.length left right = first at *
  obtain ⟨merged, leftUp, rightUp⟩ := first
  simp only at *
  have few : left.length ≤ rightUp.reverse.length + leftUp.reverse.length := by
    simp only [List.length_reverse]
    omega
  have above : ∀ item ∈ rightUp.reverse, ∀ other ∈ taken.reverse,
      backward precedes other item = false := by
    intro item member other earlier
    have isMerged := same.mem_iff.mpr (List.mem_append_left others (List.mem_reverse.mp earlier))
    exact low.least other isMerged item (List.mem_append_right leftUp (List.mem_reverse.mp member))
  have below : ∀ item ∈ others.reverse, ∀ other ∈ leftUp.reverse,
      backward precedes other item = true := by
    intro item member other later
    exact apart item (List.mem_reverse.mp member) other (List.mem_reverse.mp later)
  -- What was taken from the fronts lies beyond both lists when they are merged from the back.
  have within := mergeSome_within few above below
  rw [← List.reverse_append, ← List.reverse_append, ← front, ← back] at within
  rw [within]
  obtain ⟨last, lastOthers, rightRest, leftRest, _⟩ :=
    mergeSome_split (backward precedes) few
  generalize mergeSome (backward precedes) left.length rightUp.reverse leftUp.reverse =
    second at *
  obtain ⟨topmost, rightMid, leftMid⟩ := second
  simp only at *
  have lefts := congrArg List.length front
  have rights := congrArg List.length back
  simp only [List.length_append] at lefts rights
  simp only [List.length_append, List.length_reverse]
  rw [if_pos (by omega)]
  have leftFront := eq_append_reverse leftRest
  have rightFront := eq_append_reverse rightRest
  rw [show leftUp.length + (leftMid.length + taken.length) - left.length = leftMid.reverse.length by
      rw [List.length_reverse]; omega,
    show rightUp.length + (rightMid.length + others.length) - right.length =
      rightMid.reverse.length by rw [List.length_reverse]; omega]
  conv_lhs => rw [leftFront, rightFront, List.take_left, List.take_left]

theorem exists_mergeHalves (least : left.length ≤ right.length)
    (most : right.length ≤ left.length + 1) :
    ∃ merged, mergeHalves precedes left right = some merged ∧ Sorted precedes merged := by
  refine ⟨_, mergeHalves_eq orders known also leftSorted rightSorted least, ?_⟩
  have enough : left.length ≤ left.length + right.length := by omega
  have low := mergeSome_settled orders enough known also leftSorted rightSorted
  have size := length_rest_mergeSome precedes enough
  obtain ⟨onLeft, onRight⟩ := rest_mergeSome precedes enough
  generalize mergeSome precedes left.length left right = first at *
  obtain ⟨merged, leftUp, rightUp⟩ := first
  simp only at *
  have few : left.length ≤ rightUp.reverse.length + leftUp.reverse.length := by
    simp only [List.length_reverse]
    omega
  have high := mergeSome_settled orders.backward few
    (fun item member => also item (onRight.subset (List.mem_reverse.mp member)))
    (fun item member => known item (onLeft.subset (List.mem_reverse.mp member)))
    (sorted_reverse.mpr (rightSorted.sublist onRight.sublist))
    (sorted_reverse.mpr (leftSorted.sublist onLeft.sublist))
  have highSize := length_rest_mergeSome (backward precedes) few
  have highPerm := mergeSome_perm (backward precedes) few
  generalize mergeSome (backward precedes) left.length rightUp.reverse leftUp.reverse =
    second at *
  obtain ⟨topmost, rightMid, leftMid⟩ := second
  simp only [List.length_reverse] at highSize
  have middle : (leftMid.reverse ++ rightMid.reverse).length ≤ 1 := by
    simp only [List.length_append, List.length_reverse]
    omega
  have members : ∀ item, item ∈ leftMid.reverse ++ rightMid.reverse ++ topmost.reverse →
      item ∈ leftUp ++ rightUp := by
    intro item member
    have among := highPerm.mem_iff (a := item)
    simp only [List.mem_append, List.mem_reverse] at among member ⊢
    tauto
  rw [List.append_assoc]
  apply Sorted.append low.sorted
  · apply Sorted.append (sorted_of_length_le middle) (sorted_reverse.mpr high.sorted)
    intro item inside other above
    apply high.least other (List.mem_reverse.mp above) item
    simp only [List.mem_append, List.mem_reverse] at inside ⊢
    tauto
  · intro item below other behind
    exact low.least item below other (members other behind)

end Success

end Halves

section Small

theorem sortHalf_perm (paired : Bool) (items : List α) :
    (sortHalf precedes paired items).Perm items := by
  match items with
  | first :: second :: third :: fourth :: rest =>
    rw [sortHalf]
    split
    · apply (extend_perm precedes _ rest).trans
      exact (sortFour_perm precedes first second third fourth).append_right rest
    · exact extend_perm precedes [] _
  | [] | [_] | [_, _] | [_, _, _] => exact extend_perm precedes [] _

theorem sortSmall_perm {items sorted : List α} (succeeded : sortSmall precedes items = some sorted) :
    sorted.Perm items := by
  rw [sortSmall] at succeeded
  split at succeeded
  · cases succeeded
    exact List.Perm.refl _
  · apply (mergeHalves_perm precedes succeeded).trans
    have halves := (sortHalf_perm precedes (decide (8 ≤ items.length))
      (items.take (items.length / 2))).append
        (sortHalf_perm precedes (decide (8 ≤ items.length)) (items.drop (items.length / 2)))
    rwa [List.take_append_drop] at halves

variable {precedes} {among : α → Prop} (orders : Orders precedes among)
include orders

theorem sortHalf_sorted (paired : Bool) {items : List α} (known : ∀ item ∈ items, among item) :
    Sorted precedes (sortHalf precedes paired items) := by
  match items with
  | first :: second :: third :: fourth :: rest =>
    rw [sortHalf]
    split
    · apply extend_sorted orders
      · exact sortFour_sorted orders (known _ (by simp)) (known _ (by simp)) (known _ (by simp))
          (known _ (by simp))
      · intro item member
        have whole := (sortFour_perm precedes first second third fourth).append_right rest
        exact known item (whole.mem_iff.mp member)
    · exact extend_sorted orders List.Pairwise.nil known
  | [] | [_] | [_, _] | [_, _, _] => exact extend_sorted orders List.Pairwise.nil known

theorem exists_sortSmall {items : List α} (known : ∀ item ∈ items, among item) :
    ∃ sorted, sortSmall precedes items = some sorted ∧ Sorted precedes sorted := by
  rw [sortSmall]
  split
  · exact ⟨items, rfl, sorted_of_length_le (by omega)⟩
  · have left := sortHalf_perm precedes (decide (8 ≤ items.length))
      (items.take (items.length / 2))
    have right := sortHalf_perm precedes (decide (8 ≤ items.length))
      (items.drop (items.length / 2))
    have inFront : ∀ item ∈ items.take (items.length / 2), among item :=
      fun item member => known item (List.mem_of_mem_take member)
    have inBack : ∀ item ∈ items.drop (items.length / 2), among item :=
      fun item member => known item (List.mem_of_mem_drop member)
    apply exists_mergeHalves orders
    · exact fun item member => inFront item (left.mem_iff.mp member)
    · exact fun item member => inBack item (right.mem_iff.mp member)
    · exact sortHalf_sorted orders _ inFront
    · exact sortHalf_sorted orders _ inBack
    · rw [left.length_eq, right.length_eq, List.length_take, List.length_drop]
      omega
    · rw [left.length_eq, right.length_eq, List.length_take, List.length_drop]
      omega

end Small

end Archivist.Sorting
