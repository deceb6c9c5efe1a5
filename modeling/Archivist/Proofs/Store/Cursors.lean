import Archivist.Proofs.Store.Integers
import Archivist.Proofs.Store.Kinds

set_option autoImplicit false

/-!
Searches from behind a document. The order of a listing and the test whether a document is behind a
cursor are two comparisons, field by field; `isAfter_sortValues` says that they agree.
`Holdings.cursors_cut_listings` says what a search shows behind each document of its listing, and
what its pages show together.
-/

namespace Archivist

open Json (Value)

namespace Json.Value

def sizeAt (field : String) (source : Value) : Size := ((source.member? field).getD .null).size

def sortValues (sorts : List SortField) (source : Value) : List Value :=
  sorts.map fun sort => (source.member? sort.field).getD .null

def HasKinds (kinds : String → Kind) (sorts : List SortField) (source : Value) : Prop :=
  ∀ sort ∈ sorts, (source.member? sort.field).map kind = some (kinds sort.field)

instance (kinds : String → Kind) (sorts : List SortField) (source : Value) :
    Decidable (source.HasKinds kinds sorts) :=
  inferInstanceAs (Decidable (∀ sort ∈ sorts, _))

variable {kinds : String → Kind} {sorts : List SortField} {source : Value}

theorem HasKinds.isSome_member? (has : source.HasKinds kinds sorts) :
    ∀ sort ∈ sorts, (source.member? sort.field).isSome = true := by
  intro sort member
  obtain ⟨value, found, _⟩ := Option.map_eq_some_iff.mp (has sort member)
  rw [found, Option.isSome_some]

end Json.Value

section Comparing

def SortField.orderSizes (sort : SortField) : Value → Value → Ordering :=
  match sort.direction with
  | .ascending => compareOn (Value.sizeAt sort.field)
  | .descending => fun left right => compareOn (Value.sizeAt sort.field) right left

/-- The first field in which two documents have different sizes decides. -/
def orderSizesBy : List SortField → Value → Value → Ordering
  | [] => fun _ _ => .eq
  | sort :: rest => compareLex sort.orderSizes (orderSizesBy rest)

instance (sort : SortField) : Std.TransCmp sort.orderSizes := by
  obtain ⟨field, direction⟩ := sort
  cases direction with
  | ascending => exact inferInstanceAs (Std.TransCmp (compareOn (Value.sizeAt field)))
  | descending =>
    exact inferInstanceAs (Std.TransCmp fun left right =>
      compareOn (Value.sizeAt field) right left)

instance transCmp_orderSizesBy (sorts : List SortField) : Std.TransCmp (orderSizesBy sorts) := by
  induction sorts with
  | nil => exact { eq_swap := rfl, isLE_trans := fun _ _ => rfl }
  | cons sort rest ih =>
    exact inferInstanceAs (Std.TransCmp (compareLex sort.orderSizes (orderSizesBy rest)))

variable {kinds : String → Kind} {sorts : List SortField} {left right source other : Value}

theorem SortField.order_eq_orderSizes {sort : SortField}
    (first : (left.member? sort.field).map Value.kind = some (kinds sort.field))
    (second : (right.member? sort.field).map Value.kind = some (kinds sort.field)) :
    sort.order left right = sort.orderSizes left right := by
  obtain ⟨field, direction⟩ := sort
  obtain ⟨value, found, kind⟩ := Option.map_eq_some_iff.mp first
  obtain ⟨another, also, same⟩ := Option.map_eq_some_iff.mp second
  have compared : value.order another = compareOn (Value.sizeAt field) left right := by
    have sizes := Value.compares_order (kind.trans same.symm)
    simp only [compareOn, Value.sizeAt, found, also, Option.getD_some]
    exact ((compare_iff _ _).mpr sizes).symm
  cases direction with
  | ascending =>
    simp only [order, Direction.apply, found, also, orderMissingLast, orderSizes, compared]
  | descending =>
    simp only [order, Direction.apply, found, also, orderMissingLast, orderSizes, compared]
    exact Std.OrientedCmp.eq_swap.symm

theorem orderBy_eq_orderSizesBy (first : left.HasKinds kinds sorts)
    (second : right.HasKinds kinds sorts) :
    orderBy left right sorts = orderSizesBy sorts left right := by
  induction sorts with
  | nil => rfl
  | cons sort rest ih =>
    have here := SortField.order_eq_orderSizes (first sort List.mem_cons_self)
      (second sort List.mem_cons_self)
    have later := ih (fun sort member => first sort (List.mem_cons_of_mem _ member))
      (fun sort member => second sort (List.mem_cons_of_mem _ member))
    simp only [orderBy, orderSizesBy, compareLex, here, later]
    cases sort.orderSizes left right <;> rfl

/-- A document is behind the cursor of another one when it comes after that one, whatever it has in
the fields itself. -/
theorem isAfter_sortValues (there : ∀ sort ∈ sorts, (other.member? sort.field).isSome = true) :
    isAfter source sorts (other.sortValues sorts) = (orderBy source other sorts == .gt) := by
  induction sorts with
  | nil => rfl
  | cons sort rest ih =>
    obtain ⟨value, found⟩ := Option.isSome_iff_exists.mp (there sort List.mem_cons_self)
    have later := ih fun sort member => there sort (List.mem_cons_of_mem _ member)
    have here : sort.orderAgainst source value = sort.order source other := by
      rw [SortField.orderAgainst, SortField.order, found]
    simp only [Value.sortValues] at later
    simp only [Value.sortValues, List.map_cons, found, Option.getD_some, isAfter, orderBy, here,
      later]
    cases sort.order source other <;> rfl

end Comparing

namespace Search

def ofSize (request : Search) (limit : Nat) : Search := { request with limit := limit }

def orderSizes (request : Search) (left right : Record) : Ordering :=
  orderSizesBy request.sort left.source right.source

instance (request : Search) : Std.TransCmp request.orderSizes where
  eq_swap := by
    intro left right
    rw [orderSizes, orderSizes]
    exact Std.OrientedCmp.eq_swap
  isLE_trans := by
    intro first second third below above
    rw [orderSizes] at below above ⊢
    exact Std.TransCmp.isLE_trans below above

def cursorOf (request : Search) (record : Record) : List Value :=
  record.source.sortValues request.sort

end Search

namespace Holdings

/-- In each field that a search is sorted by, all that it may show has values of one kind, such as
numbers, timestamps or other texts, and no two documents are equal in all of these fields. -/
structure IsOrderly (held : Holdings) (request : Search) (kinds : String → Kind) : Prop where
  there : (held.documents? request.index).isSome = true
  alike : ∀ record ∈ held.listing request, record.source.HasKinds kinds request.sort
  apart : ∀ left ∈ held.listing request, ∀ right ∈ held.listing request,
    orderBy left.source right.source request.sort = .eq → left.id = right.id

/-- As many pages of a search as sizes are given, each from behind the last document shown. -/
def paging (held : Holdings) (request : Search) :
    List Nat → Option (List Value) → List (List Record)
  | [], _ => []
  | limit :: limits, after =>
    match held.shown (request.ofSize limit) after with
    | .error _ => []
    | .ok page => page :: paging held request limits ((page.getLast?.map request.cursorOf).or after)

variable {held : Holdings} {request : Search} {kinds : String → Kind}

namespace IsOrderly

variable (orderly : held.IsOrderly request kinds)

include orderly

theorem orderBy_eq {left right : Record} (first : left ∈ held.listing request)
    (second : right ∈ held.listing request) :
    orderBy left.source right.source request.sort = request.orderSizes left right :=
  orderBy_eq_orderSizesBy (orderly.alike left first) (orderly.alike right second)

/-- Each document comes strictly before those that are listed behind it. -/
theorem listing_ascends : (held.listing request).Pairwise fun left right =>
    request.orderSizes left right = .lt := by
  have orders : Sorting.Orders request.precedes (· ∈ held.listing request) :=
    .of_order request.orderSizes fun left right first second => by
      rw [Search.precedes, orderly.orderBy_eq first second, beq_iff_eq]
  have sorted : (held.listing request).Pairwise fun left right =>
      (request.orderSizes left right).isLE = true := by
    apply (Search.listing_sorted orders fun _ => id).2.imp_of_mem
    intro left right first second notBefore
    rw [Search.precedes, orderly.orderBy_eq second first, beq_eq_false_iff_ne] at notBefore
    exact Std.OrientedCmp.isGE_iff_isLE.mp (Ordering.isGE_iff_ne_lt.mpr notBefore)
  have distinct := List.pairwise_map.mp (held.nodup_ids_listing request)
  refine (sorted.and distinct).imp_of_mem fun {left right} first second both => ?_
  obtain ⟨ordered, unlike⟩ := both
  rcases Ordering.isLE_iff_eq_lt_or_eq_eq.mp ordered with before | equal
  · exact before
  · exact absurd (orderly.apart left first right second
      ((orderly.orderBy_eq first second).trans equal)) unlike

theorem shown_first (limit : Nat) : held.shown (request.ofSize limit) none =
    .ok ((held.listing request).take limit) := by
  have there : (held.documents? (request.ofSize limit).index).isSome = true := orderly.there
  exact shown_eq there none

theorem shown_behind {front rest : List Record} {last : Record}
    (split : held.listing request = front ++ last :: rest) (limit : Nat) :
    held.shown (request.ofSize limit) (some (request.cursorOf last)) =
      .ok (rest.take limit) := by
  have listed : last ∈ held.listing request := by simp [split]
  have sorted := orderly.listing_ascends
  have behind : (held.listing request).filter (fun record =>
      isAfter record.source request.sort (request.cursorOf last)) = rest := by
    calc
      _ = (held.listing request).filter fun record => request.orderSizes record last == .gt := by
        refine List.filter_congr fun record member => ?_
        rw [Search.cursorOf, isAfter_sortValues (orderly.alike last listed).isSome_member?,
          orderly.orderBy_eq member listed]
      _ = rest := by
        rw [split] at sorted ⊢
        exact filter_behind front last rest sorted
  have there : (held.documents? (request.ofSize limit).index).isSome = true := orderly.there
  rw [← behind]
  exact shown_eq there _

theorem flatten_paging {front rest : List Record} (split : held.listing request = front ++ rest)
    (limits : List Nat) :
    (held.paging request limits (front.getLast?.map request.cursorOf)).flatten =
      rest.take limits.sum := by
  -- What is listed is split at what was shown, and each page takes its size off the rest.
  induction limits generalizing front rest with
  | nil => simp [paging]
  | cons limit limits ih =>
    have shown : held.shown (request.ofSize limit) (front.getLast?.map request.cursorOf) =
        .ok (rest.take limit) := by
      rcases List.eq_nil_or_concat front with rfl | ⟨before, last, rfl⟩
      · rw [List.nil_append] at split
        rw [List.getLast?_nil, Option.map_none, orderly.shown_first, split]
      · rw [List.concat_eq_append, List.append_assoc, List.singleton_append] at split
        rw [List.concat_eq_append, List.getLast?_concat, Option.map_some,
          orderly.shown_behind split]
    -- An empty page leaves the cursor where it is.
    have onward : held.listing request =
        (front ++ rest.take limit) ++ rest.drop limit := by
      rw [List.append_assoc, List.take_append_drop]
      exact split
    have later := ih onward
    rw [List.getLast?_append, Option.map_or] at later
    rw [paging, shown]
    simp only
    rw [List.flatten_cons, later, List.sum_cons, List.take_add]

end IsOrderly

/-- A search that is told the place of a document shows what is listed behind it, from the next one
on, as far as it is asked to. Pages of any sizes therefore show the listing from its beginning, and
all of it where the sizes suffice. A listing holds what matches, in strict order, and a search that
is told no place shows it from its beginning. -/
theorem cursors_cut_listings (orderly : held.IsOrderly request kinds) :
    (∀ record, record ∈ held.listing request ↔ record.index = request.index ∧
      held.document? request.index record.id = some record.source ∧
        request.accepts record.source = true) ∧
    ((held.listing request).Pairwise fun left right =>
      orderBy left.source right.source request.sort = .lt) ∧
    (∀ limit, held.shown (request.ofSize limit) none =
      .ok ((held.listing request).take limit)) ∧
    (∀ (place : Nat) (inside : place < (held.listing request).length) (limit : Nat),
      held.shown (request.ofSize limit)
          (some (request.cursorOf ((held.listing request).get ⟨place, inside⟩))) =
        .ok (((held.listing request).drop (place + 1)).take limit)) ∧
    ∀ limits : List Nat,
      (held.paging request limits none).flatten = (held.listing request).take limits.sum ∧
      ((held.listing request).length ≤ limits.sum →
        (held.paging request limits none).flatten = held.listing request) := by
  refine ⟨fun record => mem_listing_iff, ?sorted, orderly.shown_first, ?behind, fun limits => ?pages⟩
  case sorted =>
    refine orderly.listing_ascends.imp_of_mem fun first second before => ?_
    rw [orderly.orderBy_eq first second, before]
  case behind =>
    intro place inside limit
    have split : held.listing request = (held.listing request).take place ++
        (held.listing request).get ⟨place, inside⟩ :: (held.listing request).drop (place + 1) := by
      rw [List.get_eq_getElem, List.getElem_cons_drop, List.take_append_drop]
    exact orderly.shown_behind split limit
  case pages =>
    have shown := orderly.flatten_paging (List.nil_append _).symm limits
    refine ⟨shown, fun enough => ?_⟩
    rw [← List.take_of_length_le enough]
    exact shown

/-- Events, of which two happened at the same time, and one that does not say when. -/
def events : Holdings :=
  Holdings.empty.write "events" [
    ("a", .object [("at", .text "2024-03-01T10:00:00Z"), ("key", .nat 2)]),
    ("b", .object [("at", .text "2024-03-01T11:00:00+01:00"), ("key", .nat 1)]),
    ("c", .object [("at", .text "2024-03-02T10:00:00Z"), ("key", .nat 10)]),
    ("d", .object [("key", .nat 3)])]

/-- The events that say when they happened, the last ones first. -/
def latestFirst : Search :=
  ⟨"events", [.present "at"], [⟨"at", .descending⟩, ⟨"key", .ascending⟩], 100, none⟩

theorem equal_times_are_cut_by_key :
    let kinds (field : String) : Kind := if field = "key" then .number else .timestamp
    events.IsOrderly latestFirst kinds ∧
      (events.listing latestFirst).map Record.id = ["c", "b", "a"] ∧
      events.shown (latestFirst.ofSize 5)
          (some [.text "2024-03-01T11:00:00+01:00", .nat 1]) =
        .ok ((events.listing latestFirst).drop 2) ∧
      (events.paging latestFirst [1, 0, 2] none).flatten = events.listing latestFirst := by
  intro kinds
  have orderly : events.IsOrderly latestFirst kinds :=
    ⟨by decide +kernel, by decide +kernel, by decide +kernel⟩
  obtain ⟨_, _, _, behind, pages⟩ := cursors_cut_listings orderly
  refine ⟨orderly, by decide +kernel, ?_, (pages [1, 0, 2]).2 (by decide +kernel)⟩
  exact behind 1 (by decide +kernel) 5

end Holdings

end Archivist
