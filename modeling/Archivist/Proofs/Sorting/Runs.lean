import Archivist.Proofs.Sorting.Halves

set_option autoImplicit false

namespace Archivist.Sorting

variable {α : Type} {precedes : α → α → Bool}

/-- What has been sorted has only been moved about. -/
def Rearranges (sorter : List α → Option (List α)) : Prop :=
  ∀ items sorted, sorter items = some sorted → sorted.Perm items

/-- Among some items a sort does not break off, and puts them in their order. -/
def Settles (precedes : α → α → Bool) (among : α → Prop) (sorter : List α → Option (List α)) :
    Prop :=
  ∀ items, (∀ item ∈ items, among item) → ∃ sorted, sorter items = some sorted ∧
    Sorted precedes sorted

theorem merge_perm (precedes : α → α → Bool) (left right : List α) :
    (merge precedes left right).Perm (left ++ right) := by
  rw [merge]
  split
  · exact mergeUp_perm precedes left right
  · apply (List.reverse_perm _).trans
    apply (mergeUp_perm (backward precedes) right.reverse left.reverse).trans
    rw [← List.reverse_append]
    exact List.reverse_perm _

theorem merge_sorted {among : α → Prop} (orders : Orders precedes among) {left right : List α}
    (known : ∀ item ∈ left, among item) (also : ∀ item ∈ right, among item)
    (leftSorted : Sorted precedes left) (rightSorted : Sorted precedes right) :
    Sorted precedes (merge precedes left right) := by
  rw [merge]
  split
  · exact (mergeSome_settled orders (Nat.le_refl _) known also leftSorted rightSorted).sorted
  · apply sorted_reverse.mpr
    apply (mergeSome_settled orders.backward (Nat.le_refl _) _ _ _ _).sorted
    · exact fun item member => also item (List.mem_reverse.mp member)
    · exact fun item member => known item (List.mem_reverse.mp member)
    · exact sorted_reverse.mpr rightSorted
    · exact sorted_reverse.mpr leftSorted

section Natural

theorem naturalRun_perm (precedes : α → α → Bool) (items : List α) :
    ((naturalRun precedes items).1 ++ (naturalRun precedes items).2).Perm items := by
  match items with
  | [] | [_] => simp [naturalRun]
  | first :: second :: rest =>
    rw [naturalRun]
    split
    · apply ((List.reverse_perm _).append_right _).trans
      simp
    · simp

variable {among : α → Prop} (orders : Orders precedes among)
include orders

theorem sorted_climb (goesOn : α → α → Bool) (last : α) (rest : List α)
    (known : ∀ item ∈ last :: rest, among item)
    (ordered : ∀ item before, among item → among before → goesOn item before = true →
      precedes item before = false) :
    Sorted precedes (last :: rest.take (climb goesOn last rest)) := by
  induction rest generalizing last with
  | nil => simp [Sorted, climb]
  | cons item rest ih =>
    rw [climb]
    split
    · rename_i goesOn
      have isLast := known last (by simp)
      have isItem := known item (by simp)
      have first := ordered item last isItem isLast goesOn
      have later := ih item fun other member => known other (List.mem_cons_of_mem last member)
      rw [List.take_succ_cons]
      apply List.pairwise_cons.mpr
      refine ⟨fun other member => ?_, later⟩
      rcases List.mem_cons.mp member with rfl | behind
      · exact first
      · exact orders.trans isLast isItem (known other (by simp [List.mem_of_mem_take behind]))
          first ((List.pairwise_cons.mp later).1 other behind)
    · simp [Sorted]

theorem naturalRun_sorted (items : List α) (known : ∀ item ∈ items, among item) :
    Sorted precedes (naturalRun precedes items).1 := by
  match items, known with
  | [], _ | [_], _ => simp [naturalRun, Sorted]
  | first :: second :: rest, known =>
    have isFirst := known first (by simp)
    have isSecond := known second (by simp)
    have behind : ∀ item ∈ second :: rest, among item :=
      fun item member => known item (List.mem_cons_of_mem first member)
    rw [naturalRun]
    split
    · rename_i falls
      apply sorted_reverse.mpr
      have later := sorted_climb orders.backward _ second rest behind
        fun item before isItem isBefore below => orders.asymm item before isItem isBefore below
      apply List.pairwise_cons.mpr
      refine ⟨fun item member => ?_, later⟩
      have here : precedes first second = false := orders.asymm _ _ isSecond isFirst falls
      rcases List.mem_cons.mp member with rfl | further
      · exact here
      · exact orders.backward.trans isFirst isSecond
          (known item (by simp [List.mem_of_mem_take further])) here
          ((List.pairwise_cons.mp later).1 item further)
    · rename_i rises
      rw [Bool.not_eq_true] at rises
      have later := sorted_climb orders (fun item last => !precedes item last) second rest behind
        (by simp)
      apply List.pairwise_cons.mpr
      refine ⟨fun item member => ?_, later⟩
      rcases List.mem_cons.mp member with rfl | further
      · exact rises
      · exact orders.trans isFirst isSecond
          (known item (by simp [List.mem_of_mem_take further])) rises
          ((List.pairwise_cons.mp later).1 item further)

end Natural

section Runs

variable {run left right joined : Run α} {runs : List (Run α)} {items rest : List α}
  {eager : Bool} {enough fuel : Nat}

def Run.IsTrue (precedes : α → α → Bool) (run : Run α) : Prop :=
  run.sorted = true → Sorted precedes run.items

theorem firstRun_perm (began : firstRun precedes eager enough items = some (run, rest)) :
    (run.items ++ rest).Perm items := by
  rw [firstRun] at began
  split at began
  · simp only [Option.some.injEq, Prod.mk.injEq] at began
    obtain ⟨rfl, rfl⟩ := began
    exact naturalRun_perm precedes items
  split at began
  · obtain ⟨sorted, succeeded, same⟩ := Option.map_eq_some_iff.mp began
    simp only [Prod.mk.injEq] at same
    obtain ⟨rfl, rfl⟩ := same
    apply ((sortSmall_perm precedes succeeded).append_right _).trans
    rw [List.take_append_drop]
  · simp only [Option.some.injEq, Prod.mk.injEq] at began
    obtain ⟨rfl, rfl⟩ := began
    rw [List.take_append_drop]

theorem splitRuns_perm (split : splitRuns precedes eager enough fuel items = some runs) :
    (runs.flatMap Run.items).Perm items := by
  induction fuel generalizing items runs with
  | zero =>
    cases items with
    | nil =>
      cases split
      exact List.Perm.refl _
    | cons item rest =>
      cases split
      simp
  | succ fuel ih =>
    cases items with
    | nil =>
      cases split
      exact List.Perm.refl _
    | cons item rest =>
      simp only [splitRuns, Option.bind_eq_bind, Option.bind_eq_some_iff] at split
      obtain ⟨⟨run, behind⟩, began, others, later, same⟩ := split
      cases same
      rw [List.flatMap_cons]
      exact ((ih later).append_left run.items).trans (firstRun_perm began)

section Joining

variable {sortRun : List α → Option (List α)} {room scale depth start : Nat}
  {stack : List (Run α × Nat)}

theorem Run.settle_perm (rearranges : Rearranges sortRun) {sorted : List α}
    (settled : run.settle sortRun = some sorted) : sorted.Perm run.items := by
  rw [Run.settle] at settled
  split at settled
  · cases settled
    exact List.Perm.refl _
  · exact rearranges _ _ settled

theorem joinRuns_perm (rearranges : Rearranges sortRun)
    (joins : joinRuns precedes sortRun room left right = some joined) :
    joined.items.Perm (left.items ++ right.items) := by
  rw [joinRuns] at joins
  split at joins
  · simp only [Option.bind_eq_bind, Option.bind_eq_some_iff] at joins
    obtain ⟨settled, first, others, second, same⟩ := joins
    cases same
    apply (merge_perm precedes settled others).trans
    exact (Run.settle_perm rearranges first).append (Run.settle_perm rearranges second)
  · cases joins
    exact List.Perm.refl _

def itemsOf (stack : List (Run α × Nat)) (run : Run α) : List α :=
  stack.reverse.flatMap (·.1.items) ++ run.items

theorem collapse_perm (rearranges : Rearranges sortRun)
    {collapsed : List (Run α × Nat) × Run α}
    (collapses : collapse precedes sortRun room depth stack run = some collapsed) :
    (itemsOf collapsed.1 collapsed.2).Perm (itemsOf stack run) := by
  induction stack generalizing run with
  | nil =>
    cases collapses
    exact List.Perm.refl _
  | cons top stack ih =>
    obtain ⟨left, there⟩ := top
    rw [collapse] at collapses
    split at collapses
    · simp only [Option.bind_eq_bind, Option.bind_eq_some_iff] at collapses
      obtain ⟨joined, joins, onward⟩ := collapses
      apply (ih onward).trans
      simp only [itemsOf, List.reverse_cons, List.flatMap_append, List.append_assoc,
        List.flatMap_cons, List.flatMap_nil, List.nil_append]
      exact (joinRuns_perm rearranges joins).append_left _
    · cases collapses
      exact List.Perm.refl _

theorem collapse_zero {collapsed : List (Run α × Nat) × Run α}
    (collapses : collapse precedes sortRun room 0 stack run = some collapsed) :
    collapsed.1 = [] := by
  induction stack generalizing run with
  | nil =>
    cases collapses
    rfl
  | cons top stack ih =>
    obtain ⟨left, there⟩ := top
    rw [collapse, if_pos (Nat.zero_le there)] at collapses
    simp only [Option.bind_eq_bind, Option.bind_eq_some_iff] at collapses
    obtain ⟨joined, _, onward⟩ := collapses
    exact ih onward

theorem joinAll_perm (rearranges : Rearranges sortRun)
    (joins : joinAll precedes sortRun room scale stack start run runs = some joined) :
    joined.items.Perm (itemsOf stack run ++ runs.flatMap Run.items) := by
  induction runs generalizing stack start run with
  | nil =>
    rw [joinAll, Option.map_eq_some_iff] at joins
    obtain ⟨⟨rest, last⟩, collapses, rfl⟩ := joins
    have whole := collapse_perm rearranges collapses
    rw [collapse_zero collapses] at whole
    simpa [itemsOf] using whole
  | cons next rest ih =>
    simp only [joinAll, Option.bind_eq_bind, Option.bind_eq_some_iff] at joins
    obtain ⟨⟨others, last⟩, collapses, onward⟩ := joins
    apply (ih onward).trans
    have whole := collapse_perm rearranges collapses
    simp only [itemsOf, List.reverse_cons, List.flatMap_append, List.flatMap_cons,
      List.flatMap_nil, List.append_nil, List.append_assoc] at whole ⊢
    simp only [← List.append_assoc] at whole ⊢
    exact (whole.append_right _).append_right _

theorem sortRuns_perm (rearranges : Rearranges sortRun) :
    Rearranges (sortRuns precedes eager sortRun room) := by
  intro items sorted succeeded
  simp only [sortRuns, Option.bind_eq_bind, Option.bind_eq_some_iff] at succeeded
  obtain ⟨runs, splits, succeeded⟩ := succeeded
  have whole := splitRuns_perm splits
  cases runs with
  | nil =>
    cases succeeded
    simpa using whole
  | cons run rest =>
    simp only [Option.bind_eq_some_iff] at succeeded
    obtain ⟨joined, joins, settled⟩ := succeeded
    apply (Run.settle_perm rearranges settled).trans
    apply (joinAll_perm rearranges joins).trans
    simpa [itemsOf] using whole

end Joining

section Settling

variable {among : α → Prop} (orders : Orders precedes among)
include orders

theorem exists_firstRun (eager : Bool) (enough : Nat) (known : ∀ item ∈ items, among item) :
    ∃ begun, firstRun precedes eager enough items = some begun ∧ begun.1.IsTrue precedes := by
  rw [firstRun]
  split
  · exact ⟨_, rfl, fun _ => naturalRun_sorted orders items known⟩
  split
  · have inFront : ∀ item ∈ items.take smallLimit, among item :=
      fun item member => known item (List.mem_of_mem_take member)
    obtain ⟨sorted, succeeded, inOrder⟩ := exists_sortSmall orders inFront
    rw [succeeded]
    exact ⟨_, rfl, fun _ => inOrder⟩
  · exact ⟨_, rfl, nofun⟩

theorem exists_splitRuns (eager : Bool) (enough fuel : Nat) (known : ∀ item ∈ items, among item) :
    ∃ runs, splitRuns precedes eager enough fuel items = some runs ∧
      ∀ run ∈ runs, run.IsTrue precedes := by
  induction fuel generalizing items with
  | zero =>
    cases items with
    | nil => exact ⟨[], rfl, by simp⟩
    | cons item rest => exact ⟨_, rfl, by simp [Run.IsTrue]⟩
  | succ fuel ih =>
    cases items with
    | nil => exact ⟨[], rfl, by simp⟩
    | cons item rest =>
      obtain ⟨⟨run, behind⟩, began, isTrue⟩ := exists_firstRun orders eager enough known
      have onward : ∀ other ∈ behind, among other := fun other member =>
        known other ((firstRun_perm began).mem_iff.mp (List.mem_append_right run.items member))
      obtain ⟨runs, later, areTrue⟩ := ih onward
      refine ⟨run :: runs, ?_, ?_⟩
      · simp [splitRuns, began, later]
      · intro other member
        rcases List.mem_cons.mp member with rfl | among
        · exact isTrue
        · exact areTrue other among

variable {sortRun : List α → Option (List α)} {room scale depth start : Nat}
  {stack : List (Run α × Nat)} (rearranges : Rearranges sortRun)
  (settles : Settles precedes among sortRun)
include settles

omit orders in
theorem Run.exists_settle (known : ∀ item ∈ run.items, among item)
    (isTrue : run.IsTrue precedes) :
    ∃ sorted, run.settle sortRun = some sorted ∧ Sorted precedes sorted := by
  rw [Run.settle]
  split
  · rename_i sorted
    exact ⟨_, rfl, isTrue sorted⟩
  · exact settles _ known

include rearranges

theorem exists_joinRuns (room : Nat) (known : ∀ item ∈ left.items ++ right.items, among item)
    (leftTrue : left.IsTrue precedes) (rightTrue : right.IsTrue precedes) :
    ∃ joined, joinRuns precedes sortRun room left right = some joined ∧
      joined.IsTrue precedes := by
  rw [joinRuns]
  split
  · obtain ⟨settled, first, leftSorted⟩ := Run.exists_settle settles
      (fun item member => known item (List.mem_append_left _ member)) leftTrue
    obtain ⟨others, second, rightSorted⟩ := Run.exists_settle settles
      (fun item member => known item (List.mem_append_right _ member)) rightTrue
    refine ⟨⟨merge precedes settled others, true⟩, by simp [first, second], fun _ => ?_⟩
    apply merge_sorted orders _ _ leftSorted rightSorted
    · exact fun item member => known item (List.mem_append_left _
        ((Run.settle_perm rearranges first).mem_iff.mp member))
    · exact fun item member => known item (List.mem_append_right _
        ((Run.settle_perm rearranges second).mem_iff.mp member))
  · exact ⟨_, rfl, nofun⟩

theorem exists_collapse (room depth : Nat) (known : ∀ item ∈ itemsOf stack run, among item)
    (isTrue : run.IsTrue precedes) (areTrue : ∀ waiting ∈ stack, waiting.1.IsTrue precedes) :
    ∃ collapsed, collapse precedes sortRun room depth stack run = some collapsed ∧
      collapsed.2.IsTrue precedes ∧ ∀ waiting ∈ collapsed.1, waiting.1.IsTrue precedes := by
  induction stack generalizing run with
  | nil => exact ⟨_, rfl, isTrue, by simp⟩
  | cons top stack ih =>
    obtain ⟨left, there⟩ := top
    rw [collapse]
    split
    · simp only [itemsOf, List.reverse_cons, List.flatMap_append, List.append_assoc,
        List.flatMap_cons, List.flatMap_nil, List.nil_append] at known
      obtain ⟨joined, joins, joinedTrue⟩ := exists_joinRuns orders rearranges settles room
        (fun item member => known item (List.mem_append_right _ member))
        (areTrue (left, there) List.mem_cons_self) isTrue
      have inside : ∀ item ∈ itemsOf stack joined, among item := by
        intro item member
        apply known item
        exact ((joinRuns_perm rearranges joins).append_left _).mem_iff.mp member
      obtain ⟨collapsed, onward, done⟩ := ih inside joinedTrue
        fun waiting member => areTrue waiting (List.mem_cons_of_mem _ member)
      exact ⟨collapsed, by simp [joins, onward], done⟩
    · exact ⟨_, rfl, isTrue, areTrue⟩

theorem exists_joinAll (room scale start : Nat)
    (known : ∀ item ∈ itemsOf stack run ++ runs.flatMap Run.items, among item)
    (isTrue : run.IsTrue precedes) (waitTrue : ∀ waiting ∈ stack, waiting.1.IsTrue precedes)
    (areTrue : ∀ run ∈ runs, run.IsTrue precedes) :
    ∃ joined, joinAll precedes sortRun room scale stack start run runs = some joined ∧
      joined.IsTrue precedes := by
  induction runs generalizing stack start run with
  | nil =>
    obtain ⟨collapsed, collapses, lastTrue, _⟩ := exists_collapse orders rearranges settles
      room 0 (fun item member => known item (List.mem_append_left _ member))
      isTrue waitTrue
    exact ⟨collapsed.2, by simp [joinAll, collapses], lastTrue⟩
  | cons next rest ih =>
    let middle := start + run.items.length
    let depth := mergeDepth scale start middle (middle + next.items.length)
    obtain ⟨⟨others, last⟩, collapses, lastTrue, othersTrue⟩ := exists_collapse orders rearranges
      settles room depth (fun item member => known item (List.mem_append_left _ member)) isTrue waitTrue
    have whole := collapse_perm rearranges collapses
    have inside : ∀ item ∈ itemsOf ((last, depth) :: others) next ++ rest.flatMap Run.items,
        among item := by
      intro item member
      apply known item
      simp only [itemsOf, List.reverse_cons, List.flatMap_append, List.flatMap_cons,
        List.flatMap_nil, List.append_nil, List.append_assoc] at whole member ⊢
      simp only [← List.append_assoc] at whole member ⊢
      exact ((whole.append_right _).append_right _).mem_iff.mp member
    have waiting : ∀ waiting ∈ (last, depth) :: others, waiting.1.IsTrue precedes := by
      intro waiting member
      rcases List.mem_cons.mp member with rfl | among
      · exact lastTrue
      · exact othersTrue waiting among
    obtain ⟨joined, joins, joinedTrue⟩ := ih middle inside (areTrue next List.mem_cons_self) waiting
      fun run member => areTrue run (List.mem_cons_of_mem next member)
    refine ⟨joined, ?_, joinedTrue⟩
    simp only [joinAll, Option.bind_eq_bind, Option.bind_eq_some_iff]
    exact ⟨_, collapses, joins⟩

theorem sortRuns_settles : Settles precedes among (sortRuns precedes eager sortRun room) := by
  intro items known
  obtain ⟨runs, splits, areTrue⟩ := exists_splitRuns orders eager (enoughFor items.length)
    items.length known
  have whole := splitRuns_perm splits
  simp only [sortRuns, Option.bind_eq_bind, splits, Option.bind_some]
  cases runs with
  | nil => exact ⟨[], rfl, List.Pairwise.nil⟩
  | cons run rest =>
    have inside : ∀ item ∈ itemsOf [] run ++ rest.flatMap Run.items, among item := by
      intro item member
      apply known item
      apply whole.mem_iff.mp
      simpa [itemsOf] using member
    obtain ⟨joined, joins, isTrue⟩ := exists_joinAll orders rearranges settles room
      ((2 ^ 62 + items.length - 1) / items.length) 0 inside (areTrue run List.mem_cons_self) (by simp)
      fun other member => areTrue other (List.mem_cons_of_mem run member)
    obtain ⟨sorted, settled, inOrder⟩ := Run.exists_settle settles
      (fun item member => inside item ((joinAll_perm rearranges joins).mem_iff.mp member)) isTrue
    refine ⟨sorted, ?_, inOrder⟩
    simp only [Option.bind_eq_some_iff]
    exact ⟨joined, joins, settled⟩

end Settling

end Runs

section Pivots

theorem partition_perm (goesLeft : α → Bool) (pivotLeft : Bool) (front : List α) (pivot : α)
    (back : List α) :
    ((partition goesLeft pivotLeft front pivot back).1 ++
      (partition goesLeft pivotLeft front pivot back).2).Perm (front ++ pivot :: back) := by
  classical
  have fronts := List.perm_iff_count.mp (List.filter_append_perm goesLeft front)
  have backs := List.perm_iff_count.mp (List.filter_append_perm goesLeft back)
  rw [List.perm_iff_count]
  intro item
  have first := fronts item
  have second := backs item
  simp only [List.count_append] at first second
  rw [partition]
  cases pivotLeft <;> simp only [Bool.false_eq_true, ↓reduceIte, List.count_append, List.count_cons,
    List.count_nil] <;> omega

theorem goesLeft_of_partition (goesLeft : α → Bool) {front back : List α} {pivot item : α}
    (member : item ∈ (partition goesLeft false front pivot back).1) : goesLeft item = true := by
  simp only [partition, Bool.false_eq_true, ↓reduceIte, List.append_nil, List.mem_append,
    List.mem_filter] at member
  tauto

theorem goesRight_of_partition {goesLeft : α → Bool} {front back : List α} {pivot item : α}
    (member : item ∈ (partition goesLeft false front pivot back).2) :
    item = pivot ∨ goesLeft item = false := by
  simp only [partition, Bool.false_eq_true, ↓reduceIte, List.mem_append, List.mem_filter,
    List.mem_singleton, Bool.not_eq_eq_eq_not, Bool.not_true] at member
  tauto

theorem isEqual_of_partition {goesLeft : α → Bool} {front back : List α} {pivot item : α}
    (member : item ∈ (partition goesLeft true front pivot back).1) :
    item = pivot ∨ goesLeft item = true := by
  simp only [partition, ↓reduceIte, List.mem_append, List.mem_filter, List.mem_singleton] at member
  tauto

theorem median_mem (precedes : α → α → Bool) (items : List α) (first second third : Nat) :
    median precedes items first second third = first ∨
      median precedes items first second third = second ∨
      median precedes items first second third = third := by
  simp only [median]
  split
  · split <;> simp
  · simp

theorem medianOf_lt {items : List α} {first second third spread bound : Nat} (some : 0 < spread)
    (isFirst : first + spread ≤ bound) (isSecond : second + spread ≤ bound)
    (isThird : third + spread ≤ bound) :
    medianOf precedes items first second third spread < bound := by
  induction spread using Nat.strongRecOn generalizing first second third with
  | ind spread ih =>
    rw [medianOf]
    split
    · have inner (start : Nat) (fits : start + spread ≤ bound) :
          medianOf precedes items start (start + spread / 8 * 4) (start + spread / 8 * 7)
            (spread / 8) < bound :=
        ih (spread / 8) (by omega) (by omega) (by omega) (by omega) (by omega)
      rcases median_mem precedes items
          (medianOf precedes items first (first + spread / 8 * 4) (first + spread / 8 * 7)
            (spread / 8))
          (medianOf precedes items second (second + spread / 8 * 4) (second + spread / 8 * 7)
            (spread / 8))
          (medianOf precedes items third (third + spread / 8 * 4) (third + spread / 8 * 7)
            (spread / 8)) with same | same | same
      · simp only [same]
        exact inner first isFirst
      · simp only [same]
        exact inner second isSecond
      · simp only [same]
        exact inner third isThird
    · rcases median_mem precedes items first second third with same | same | same <;>
        rw [same] <;> omega

theorem pivotAt_lt (precedes : α → α → Bool) {items : List α} (many : 8 ≤ items.length) :
    pivotAt precedes items < items.length := by
  simp only [pivotAt]
  split
  · rcases median_mem precedes items 0 (items.length / 8 * 4)
      (items.length / 8 * 7) with same | same | same <;> rw [same] <;> omega
  · exact medianOf_lt (by omega) (by omega) (by omega) (by omega)

theorem insertion_rearranges (precedes : α → α → Bool) :
    Rearranges fun items => some (extend precedes [] items) := by
  intro items sorted succeeded
  cases succeeded
  exact extend_perm precedes [] items

theorem quicksort_rearranges (room limit : Nat) (ancestor : Option α) :
    Rearranges (quicksort precedes room limit ancestor) := by
  induction limit generalizing ancestor with
  | zero =>
    intro items sorted succeeded
    rw [quicksort] at succeeded
    split at succeeded
    · exact sortSmall_perm precedes succeeded
    · exact sortRuns_perm (insertion_rearranges precedes) items sorted succeeded
  | succ limit ih =>
    intro items sorted succeeded
    simp only [quicksort] at succeeded
    split at succeeded
    · exact sortSmall_perm precedes succeeded
    split at succeeded
    · cases succeeded
    · rename_i pivot back rest
      have whole : items.take (pivotAt precedes items) ++ pivot :: back = items := by
        rw [← rest, List.take_append_drop]
      split at succeeded
      · obtain ⟨later, sorts, rfl⟩ := Option.map_eq_some_iff.mp succeeded
        apply ((ih none _ _ sorts).append_left _).trans
        exact (partition_perm _ _ _ _ _).trans (List.Perm.of_eq whole)
      · simp only [Option.bind_eq_bind, Option.bind_eq_some_iff] at succeeded
        obtain ⟨right, second, left, first, same⟩ := succeeded
        cases same
        apply ((ih ancestor _ _ first).append (ih (some pivot) _ _ second)).trans
        exact (partition_perm _ _ _ _ _).trans (List.Perm.of_eq whole)

variable {among : α → Prop} (orders : Orders precedes among)
include orders

theorem insertion_settles : Settles precedes among fun items => some (extend precedes [] items) :=
  fun _ known => ⟨_, rfl, extend_sorted orders List.Pairwise.nil known⟩

section Parts

variable {front back : List α} {pivot : α} (known : ∀ item ∈ front ++ pivot :: back, among item)
include known

/-- Nothing precedes a pivot that a pivot of which this holds does not precede, and none that has
nothing on its left. -/
theorem least_of_repeated {ancestor : Option α}
    (above : ∀ before ∈ ancestor, among before ∧
      ∀ item ∈ front ++ pivot :: back, precedes item before = false)
    (repeated : (ancestor.any fun before => !precedes before pivot) ||
      (partition (precedes · pivot) false front pivot back).1.isEmpty) :
    ∀ item ∈ front ++ pivot :: back, precedes item pivot = false := by
  intro item member
  have isPivot := known pivot (by simp)
  rw [Bool.or_eq_true] at repeated
  rcases repeated with again | none
  · obtain ⟨before, same, notBelow⟩ := (Option.any_eq_true _ _).mp again
    obtain ⟨isBefore, least⟩ := above before same
    rw [Bool.not_eq_eq_eq_not, Bool.not_true] at notBelow
    exact orders.trans isPivot isBefore (known item member) notBelow (least item member)
  · rw [List.isEmpty_iff] at none
    have placed := (partition_perm (precedes · pivot) false front pivot back).mem_iff.mpr member
    rw [none, List.nil_append] at placed
    rcases goesRight_of_partition placed with rfl | behind
    · exact orders.irrefl isPivot
    · exact behind

theorem equals_then_sorted
    (least : ∀ item ∈ front ++ pivot :: back, precedes item pivot = false) {later : List α}
    (sorts : later.Perm (partition (fun item => !precedes pivot item) true front pivot back).2)
    (sorted : Sorted precedes later) :
    Sorted precedes
      ((partition (fun item => !precedes pivot item) true front pivot back).1 ++ later) := by
  have whole := partition_perm (fun item => !precedes pivot item) true front pivot back
  have isPivot := known pivot (by simp)
  have first : ∀ item ∈ (partition (fun item => !precedes pivot item) true front pivot back).1,
      precedes pivot item = false := by
    intro item member
    rcases isEqual_of_partition member with rfl | behind
    · exact orders.irrefl isPivot
    · simpa using behind
  have below (item other : α)
      (member : item ∈ (partition (fun item => !precedes pivot item) true front pivot back).1)
      (also : other ∈ front ++ pivot :: back) : precedes other item = false := by
    have isItem := known item (whole.mem_iff.mp (List.mem_append_left _ member))
    exact orders.trans isItem isPivot (known other also) (first item member) (least other also)
  apply Sorted.append _ sorted
  · intro item member other also
    exact below item other member
      (whole.mem_iff.mp (List.mem_append_right _ (sorts.mem_iff.mp also)))
  · apply List.pairwise_of_forall_mem_list
    intro item member other also
    exact below item other member (whole.mem_iff.mp (List.mem_append_left _ also))

theorem left_then_right_sorted {left right : List α}
    (first : left.Perm (partition (precedes · pivot) false front pivot back).1)
    (second : right.Perm (partition (precedes · pivot) false front pivot back).2)
    (leftSorted : Sorted precedes left) (rightSorted : Sorted precedes right) :
    Sorted precedes (left ++ right) := by
  have whole := partition_perm (precedes · pivot) false front pivot back
  have isPivot := known pivot (by simp)
  apply Sorted.append leftSorted rightSorted
  intro item member other also
  have inLeft := first.mem_iff.mp member
  have inRight := second.mem_iff.mp also
  have isItem := known item (whole.mem_iff.mp (List.mem_append_left _ inLeft))
  have isOther := known other (whole.mem_iff.mp (List.mem_append_right _ inRight))
  have before : precedes item pivot = true := goesLeft_of_partition (precedes · pivot) inLeft
  have behind : precedes other pivot = false := by
    rcases goesRight_of_partition inRight with rfl | behind
    · exact orders.irrefl isPivot
    · exact behind
  rcases orders.between item other pivot isItem isOther isPivot before with below | above
  · exact orders.asymm item other isItem isOther below
  · simp [above] at behind

end Parts

theorem quicksort_settles (room limit : Nat) (ancestor : Option α) (items : List α)
    (known : ∀ item ∈ items, among item)
    (above : ∀ before ∈ ancestor, among before ∧ ∀ item ∈ items, precedes item before = false) :
    ∃ sorted, quicksort precedes room limit ancestor items = some sorted ∧
      Sorted precedes sorted := by
  -- Every pivot takes one off the limit, and one that was met before is one that no item precedes.
  induction limit generalizing ancestor items with
  | zero =>
    rw [quicksort]
    split
    · exact exists_sortSmall orders known
    · exact sortRuns_settles orders (insertion_rearranges precedes) (insertion_settles orders) items
        known
  | succ limit ih =>
    simp only [quicksort]
    split
    · exact exists_sortSmall orders known
    rename_i many
    have place := pivotAt_lt precedes (by simp only [smallLimit] at many; omega : 8 ≤ items.length)
    split
    · rename_i none
      have behind := List.drop_eq_nil_iff.mp none
      omega
    · rename_i pivot back rest
      obtain ⟨front, cut⟩ : ∃ front, items.take (pivotAt precedes items) = front := ⟨_, rfl⟩
      have whole : front ++ pivot :: back = items := by
        rw [← rest, ← cut, List.take_append_drop]
      rw [cut]
      subst whole
      split
      · rename_i repeated
        have least := least_of_repeated orders known above repeated
        have inLater : ∀ item ∈ (partition (fun item => !precedes pivot item) true front pivot
            back).2, among item := fun item member => known item
          ((partition_perm _ _ _ _ _).mem_iff.mp (List.mem_append_right _ member))
        obtain ⟨later, sorts, sorted⟩ := ih none _ inLater nofun
        rw [sorts]
        exact ⟨_, rfl, equals_then_sorted orders known least
          (quicksort_rearranges _ _ _ _ _ sorts) sorted⟩
      · have onLeft : ∀ item ∈ (partition (precedes · pivot) false front pivot back).1,
            item ∈ front ++ pivot :: back := fun item member =>
          (partition_perm _ _ _ _ _).mem_iff.mp (List.mem_append_left _ member)
        have onRight : ∀ item ∈ (partition (precedes · pivot) false front pivot back).2,
            item ∈ front ++ pivot :: back := fun item member =>
          (partition_perm _ _ _ _ _).mem_iff.mp (List.mem_append_right _ member)
        have isPivot := known pivot (by simp)
        obtain ⟨right, second, rightSorted⟩ := ih (some pivot) _
          (fun item member => known item (onRight item member)) (by
            intro before same
            cases same
            refine ⟨isPivot, fun item member => ?_⟩
            rcases goesRight_of_partition member with rfl | behind
            · exact orders.irrefl isPivot
            · exact behind)
        obtain ⟨left, first, leftSorted⟩ := ih ancestor _
          (fun item member => known item (onLeft item member))
          fun before same => ⟨(above before same).1, fun item member =>
            (above before same).2 item (onLeft item member)⟩
        refine ⟨left ++ right, by simp [second, first], ?_⟩
        exact left_then_right_sorted orders known (quicksort_rearranges _ _ _ _ _ first)
          (quicksort_rearranges _ _ _ _ _ second) leftSorted rightSorted

end Pivots

theorem sort?_perm : Rearranges (sort? precedes) := by
  intro items sorted succeeded
  rw [sort?] at succeeded
  split at succeeded
  · exact insertion_rearranges precedes items sorted succeeded
  · apply sortRuns_perm _ items sorted succeeded
    exact fun run => quicksort_rearranges _ _ none run

/-- Where a comparison puts some items in an order, the sort does so, and does not break off. -/
theorem sort?_settles {among : α → Prop} (orders : Orders precedes among) :
    Settles precedes among (sort? precedes) := by
  intro items known
  rw [sort?]
  split
  · exact insertion_settles orders items known
  · apply sortRuns_settles orders _ _ items known
    · exact fun run => quicksort_rearranges _ _ none run
    · exact fun run inside => quicksort_settles orders _ _ none run inside nofun

end Archivist.Sorting
