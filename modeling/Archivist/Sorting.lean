set_option autoImplicit false

/-!
A sort that keeps the order of items of which neither precedes the other. It sorts few items by
insertion, up to thirty-two by merging two halves, and more of them by merging runs, which it finds
or makes. Two halves are merged from both ends at once. Where a comparison puts the items in no
order an item may be taken from either end, and then the sort breaks off.
-/

namespace Archivist.Sorting

variable {α : Type} (precedes : α → α → Bool)

/-- Puts an item behind all that it does not precede. The last item of a list comes first in it. -/
def insertBack (item : α) : List α → List α
  | [] => [item]
  | last :: front =>
    if precedes item last then last :: insertBack item front else item :: last :: front

/-- Inserts items one after the other behind those that are sorted. -/
def extend (sorted items : List α) : List α :=
  (items.foldl (fun back item => insertBack precedes item back) sorted.reverse).reverse

/-- The two items between the least and the most of four. -/
def sortBetween (least left right most : α) : List α :=
  if precedes right left then [least, right, left, most] else [least, left, right, most]

def sortPairs (first second third fourth : α) : List α :=
  match precedes third first, precedes fourth second with
  | false, false => sortBetween precedes first second third fourth
  | false, true => sortBetween precedes first third fourth second
  | true, false => sortBetween precedes third first second fourth
  | true, true => sortBetween precedes third first fourth second

def sortFour (first second third fourth : α) : List α :=
  match precedes second first, precedes fourth third with
  | false, false => sortPairs precedes first second third fourth
  | false, true => sortPairs precedes first second fourth third
  | true, false => sortPairs precedes second first third fourth
  | true, true => sortPairs precedes second first fourth third

/-- Sorts by insertion, where that is wanted from four items on that are compared in pairs. -/
def sortHalf (paired : Bool) : List α → List α
  | first :: second :: third :: fourth :: rest =>
    if paired then extend precedes (sortFour precedes first second third fourth) rest
    else extend precedes [] (first :: second :: third :: fourth :: rest)
  | items => extend precedes [] items

/-- A number of items from the fronts of two lists, in the order of their merger, and what is left
of the lists. -/
def mergeSome : Nat → List α → List α → List α × List α × List α
  | 0, left, right => ([], left, right)
  | count + 1, [], next :: right =>
    let merged := mergeSome count [] right
    (next :: merged.1, merged.2)
  | count + 1, next :: left, [] =>
    let merged := mergeSome count left []
    (next :: merged.1, merged.2)
  | count + 1, first :: left, next :: right =>
    if precedes next first then
      let merged := mergeSome count (first :: left) right
      (next :: merged.1, merged.2)
    else
      let merged := mergeSome count left (next :: right)
      (first :: merged.1, merged.2)
  | _ + 1, [], [] => ([], [], [])

def mergeUp (left right : List α) : List α :=
  (mergeSome precedes (left.length + right.length) left right).1

abbrev backward (left right : α) : Bool := precedes right left

/-- Merges as many items from the front of two lists as from their back. That does not succeed when
an item is taken twice; with one more item than these, that one is in the middle. -/
def mergeHalves (left right : List α) : Option (List α) :=
  let low := mergeSome precedes left.length left right
  let high := mergeSome (backward precedes) left.length right.reverse left.reverse
  let leftOver := low.2.1.length + high.2.2.length
  let rightOver := low.2.2.length + high.2.1.length
  if left.length ≤ leftOver ∧ right.length ≤ rightOver then
    some (low.1 ++ (low.2.1.take (leftOver - left.length) ++
      low.2.2.take (rightOver - right.length)) ++ high.1.reverse)
  else none

def smallLimit : Nat := 32

def sortSmall (items : List α) : Option (List α) :=
  if items.length < 2 then some items
  else
    let half := items.length / 2
    let paired := 8 ≤ items.length
    mergeHalves precedes (sortHalf precedes paired (items.take half))
      (sortHalf precedes paired (items.drop half))

/-- The shorter list is moved out of the way, and merging begins at its end. -/
def merge (left right : List α) : List α :=
  if left.length ≤ right.length then mergeUp precedes left right
  else (mergeUp (backward precedes) right.reverse left.reverse).reverse

/-- Items next to each other, which may have been sorted already. -/
structure Run (α : Type) where
  items : List α
  sorted : Bool

/-- How many items go on as the one before them does. -/
def climb (goesOn : α → α → Bool) (last : α) : List α → Nat
  | [] => 0
  | item :: rest => if goesOn item last then climb goesOn item rest + 1 else 0

/-- The sorted items that a list begins with; items that come the other way round are turned. -/
def naturalRun : List α → List α × List α
  | first :: second :: rest =>
    if precedes second first then
      let length := climb precedes second rest
      ((first :: second :: rest.take length).reverse, rest.drop length)
    else
      let length := climb (fun item last => !precedes item last) second rest
      (first :: second :: rest.take length, rest.drop length)
  | items => (items, [])

/-- The run that items begin with. One that is there is taken when it is long enough. -/
def firstRun (eager : Bool) (enough : Nat) (items : List α) : Option (Run α × List α) :=
  let found := naturalRun precedes items
  if enough ≤ found.1.length then some (⟨found.1, true⟩, found.2)
  else if eager then
    (sortSmall precedes (items.take smallLimit)).map fun sorted =>
      (⟨sorted, true⟩, items.drop smallLimit)
  else some (⟨items.take enough, false⟩, items.drop enough)

/-- Each run takes an item at least, so a fuel of their number suffices. -/
def splitRuns (eager : Bool) (enough : Nat) : Nat → List α → Option (List (Run α))
  | _, [] => some []
  | 0, items => some [⟨items, false⟩]
  | fuel + 1, items => do
    let begun ← firstRun precedes eager enough items
    let runs ← splitRuns eager enough fuel begun.2
    return begun.1 :: runs

section Merging

variable (sortRun : List α → Option (List α)) (room scale : Nat)

def Run.settle (run : Run α) : Option (List α) :=
  if run.sorted then some run.items else sortRun run.items

def joinRuns (left right : Run α) : Option (Run α) :=
  if left.sorted || right.sorted || room < left.items.length + right.items.length then do
    let settled ← left.settle sortRun
    let others ← right.settle sortRun
    return ⟨merge precedes settled others, true⟩
  else some ⟨left.items ++ right.items, false⟩

/-- How deep in a balanced tree of mergers the one of two neighbours is. -/
def mergeDepth (start middle stop : Nat) : Nat :=
  let difference := scale * (start + middle) ^^^ scale * (middle + stop)
  if difference = 0 then 64 else 63 - difference.log2

/-- Joins a run with those in front of it that are to be merged before a merger of some depth. -/
def collapse (depth : Nat) : List (Run α × Nat) → Run α → Option (List (Run α × Nat) × Run α)
  | [], run => some ([], run)
  | (left, there) :: stack, run =>
    if depth ≤ there then do
      let joined ← joinRuns precedes sortRun room left run
      collapse depth stack joined
    else some ((left, there) :: stack, run)

/-- Joins all runs. Those that wait have the depths of their mergers with them. -/
def joinAll (stack : List (Run α × Nat)) (start : Nat) (run : Run α) :
    List (Run α) → Option (Run α)
  | [] => (collapse precedes sortRun room 0 stack run).map (·.2)
  | next :: rest => do
    let middle := start + run.items.length
    let depth := mergeDepth scale start middle (middle + next.items.length)
    let collapsed ← collapse precedes sortRun room depth stack run
    joinAll ((collapsed.2, depth) :: collapsed.1) middle next rest

end Merging

/-- From how many items on a run that is found is taken, about the root of their number. -/
def enoughFor (count : Nat) : Nat :=
  if count ≤ 4096 then min (count - count / 2) 64
  else
    let shift := (1 + count.log2) / 2
    (1 <<< shift + count >>> shift) / 2

/-- Sorts by runs; those that are eager for it are sorted at once, others are put together first. -/
def sortRuns (eager : Bool) (sortRun : List α → Option (List α)) (room : Nat) (items : List α) :
    Option (List α) := do
  let runs ← splitRuns precedes eager (enoughFor items.length) items.length items
  match runs with
  | [] => return []
  | run :: rest =>
    let scale := (1 <<< 62 + items.length - 1) / items.length
    let joined ← joinAll precedes sortRun room scale [] 0 run rest
    joined.settle sortRun

section Pivots

variable (items : List α)

def precedesAt (left right : Nat) : Bool :=
  match items[left]?, items[right]? with
  | some left, some right => precedes left right
  | _, _ => false

def median (first second third : Nat) : Nat :=
  let below := precedesAt precedes items first second
  if below == precedesAt precedes items first third then
    if precedesAt precedes items second third ^^ below then third else second
  else first

/-- The median of three medians, of items that are spread evenly. -/
def medianOf (first second third spread : Nat) : Nat :=
  if 64 ≤ spread * 8 then
    let next := spread / 8
    let inner (start : Nat) := medianOf start (start + next * 4) (start + next * 7) next
    median precedes items (inner first) (inner second) (inner third)
  else median precedes items first second third
termination_by spread
decreasing_by omega

def pivotAt : Nat :=
  let spread := items.length / 8
  if items.length < 64 then median precedes items 0 (spread * 4) (spread * 7)
  else medianOf precedes items 0 (spread * 4) (spread * 7) spread

end Pivots

/-- Items apart by what is said of each; the place of one among them is given. -/
def partition (goesLeft : α → Bool) (pivotLeft : Bool) (front : List α) (pivot : α)
    (back : List α) : List α × List α :=
  let middle := if pivotLeft then ([pivot], []) else ([], [pivot])
  (front.filter goesLeft ++ middle.1 ++ back.filter goesLeft,
    front.filter (!goesLeft ·) ++ middle.2 ++ back.filter (!goesLeft ·))

/-- Sorts by a pivot, as often as the limit allows. Where nothing precedes the pivot, which may show
by a pivot before it, those that are no greater are sorted already. -/
def quicksort (room : Nat) : Nat → Option α → List α → Option (List α)
  | 0, _, items =>
    if items.length ≤ smallLimit then sortSmall precedes items
    else sortRuns precedes true (fun items => some (extend precedes [] items)) room items
  | limit + 1, ancestor, items =>
    if items.length ≤ smallLimit then sortSmall precedes items
    else
      let place := pivotAt precedes items
      match items.drop place with
      | [] => none
      | pivot :: back =>
        let front := items.take place
        let split := partition (precedes · pivot) false front pivot back
        let repeated := ancestor.any fun before => !precedes before pivot
        if repeated || split.1.isEmpty then
          let split := partition (fun item => !precedes pivot item) true front pivot back
          (quicksort room limit none split.2).map (split.1 ++ ·)
        else do
          let right ← quicksort room limit (some pivot) split.2
          let left ← quicksort room limit ancestor split.1
          return left ++ right

/-- The number of items that are sorted in place. -/
def roomFor (count : Nat) : Nat := max (count - count / 2) (min count 100000)

/-- The items in their order, if the sort does not break off. -/
def sort? (items : List α) : Option (List α) :=
  if items.length ≤ 20 then some (extend precedes [] items)
  else
    let room := roomFor items.length
    let sortRun := fun run : List α =>
      quicksort precedes room (2 * run.length.log2) none run
    sortRuns precedes (items.length ≤ 2 * smallLimit) sortRun room items

end Archivist.Sorting
