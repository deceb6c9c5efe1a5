import Archivist.Proofs.Number.Rounding
import Archivist.Proofs.Store.Listing
import Mathlib.Order.Compare

set_option autoImplicit false

namespace Archivist

open Binary64 (IsWord nearest)
open Json (Value)

namespace Json.Value

/-- The integer in a field of a document, and zero where there is none. -/
def intAt (field : String) (source : Value) : Int := ((source.member? field).bind int?).getD 0

theorem order_int {left right : Int} (first : IsWord left) (second : IsWord right) :
    (int left).order (int right) = compare (nearest left) (nearest right) :=
  Binary64.order_ofInt first second

def HasWord (field : String) (source : Value) : Prop :=
  ∃ number, source.member? field = some (.int number) ∧ IsWord number

variable {field : String} {source left right : Value} {number : Int}

instance (field : String) (source : Value) : Decidable (source.HasWord field) :=
  decidable_of_iff (((source.member? field).bind int?).any (fun number => decide (IsWord number)) =
      true) (by
    rw [Option.any_eq_true]
    constructor
    · rintro ⟨number, found, word⟩
      obtain ⟨value, held, read⟩ := Option.bind_eq_some_iff.mp found
      refine ⟨number, ?_, of_decide_eq_true word⟩
      match value with
      | .number (.integer whole) =>
        cases read
        exact held
      | .number (.real _) | .null | .bool _ | .text _ | .array _ | .object _ => cases read
    · rintro ⟨number, found, word⟩
      exact ⟨number, by rw [found]; rfl, decide_eq_true word⟩)

theorem HasWord.member (has : source.HasWord field) :
    source.member? field = some (.int (source.intAt field)) ∧ IsWord (source.intAt field) := by
  obtain ⟨number, found, word⟩ := has
  have same : source.intAt field = number := by simp [intAt, found, int, int?]
  rw [same]
  exact ⟨found, word⟩

theorem orderBy_of_hasWord (first : left.HasWord field) (second : right.HasWord field) :
    orderBy left right [⟨field, .ascending⟩] =
      compare (nearest (left.intAt field)) (nearest (right.intAt field)) := by
  obtain ⟨found, word⟩ := first.member
  obtain ⟨also, fits⟩ := second.member
  simp only [orderBy, SortField.order, Direction.apply, found, also, orderMissingLast,
    order_int word fits]
  cases compare (nearest (left.intAt field)) (nearest (right.intAt field)) <;> rfl

theorem isAfter_of_hasWord (has : source.HasWord field) (word : IsWord number) :
    isAfter source [⟨field, .ascending⟩] [.int number] =
      decide (nearest number < nearest (source.intAt field)) := by
  obtain ⟨found, fits⟩ := has.member
  simp only [isAfter, SortField.orderAgainst, Direction.apply, found, orderMissingLast,
    order_int fits word]
  cases ordered : compare (nearest (source.intAt field)) (nearest number) with
  | lt =>
    rw [compare_lt_iff_lt] at ordered
    exact (decide_eq_false (by omega)).symm
  | eq =>
    rw [compare_eq_iff_eq] at ordered
    exact (decide_eq_false (by omega)).symm
  | gt =>
    rw [compare_gt_iff_gt] at ordered
    exact (decide_eq_true ordered).symm

end Json.Value

abbrev Record.intAt (field : String) (record : Record) : Int := record.source.intAt field

def Search.behind (request : Search) (after : Option (List Value)) : Search :=
  { request with after := after }

namespace Holdings

def listing (held : Holdings) (request : Search) : List Record :=
  request.listing (records request.index (held.documents request.index))

def shown (held : Holdings) (request : Search) (after : Option (List Value)) :
    Except StoreFailure (List Record) :=
  (held.perform (.search (request.behind after))).1

/-- A search is sorted by one field, the least first, where all that it may show has an integer. -/
structure IsNumbered (held : Holdings) (request : Search) (field : String) : Prop where
  there : (held.documents? request.index).isSome = true
  sorted : request.sort = [⟨field, .ascending⟩]
  integers : ∀ record ∈ held.listing request, record.source.HasWord field

/-- The pages of a search, each from behind the last document of the one before it. An empty page
ends them. -/
def pages (held : Holdings) (request : Search) (cursor : Record → List Value) :
    Nat → Option (List Value) → List (List Record)
  | 0, _ => []
  | turns + 1, after =>
    match held.shown request after with
    | .error _ => []
    | .ok page =>
      match page.getLast? with
      | none => []
      | some last => page :: pages held request cursor turns (some (cursor last))

variable {held : Holdings} {request : Search} {field : String}

theorem mem_listing_iff {record : Record} : record ∈ held.listing request ↔
    record.index = request.index ∧ held.document? request.index record.id = some record.source ∧
      request.accepts record.source = true := by
  rw [listing, Search.mem_listing, mem_records, mem_documents_iff, and_assoc]

theorem shown_eq (there : (held.documents? request.index).isSome = true)
    (after : Option (List Value)) : held.shown request after =
      .ok ((request.behind after).page
        (records request.index (held.documents request.index))) := by
  obtain ⟨found, same⟩ := Option.isSome_iff_exists.mp there
  rw [← held.documents_of_documents? _ _ same] at same
  simp only [shown, perform, Search.behind, same]

namespace IsNumbered

theorem listing_ascends (numbered : held.IsNumbered request field) :
    (held.listing request).Pairwise fun left right =>
      nearest (left.intAt field) ≤ nearest (right.intAt field) := by
  apply Search.listing_ascends fun record : Record => nearest (record.intAt field)
  intro left first right second
  rw [Search.precedes, numbered.sorted, Value.orderBy_of_hasWord (numbered.integers left first)
    (numbered.integers right second), beq_iff_eq, compare_lt_iff_lt]

variable (numbered : held.IsNumbered request field)

include numbered

theorem search_first : held.shown request none =
    .ok ((held.listing request).take request.limit) :=
  shown_eq numbered.there none

theorem search_behind {number : Int} (word : IsWord number) :
    held.shown request (some [.int number]) =
      .ok (((held.listing request).filter fun record =>
        decide (nearest number < nearest (record.intAt field))).take request.limit) := by
  rw [shown_eq numbered.there]
  apply congrArg fun shown : List Record => Except.ok (shown.take request.limit)
  apply List.filter_congr
  intro record member
  simp only [Search.behind, numbered.sorted]
  exact Value.isAfter_of_hasWord (numbered.integers record member) word

theorem search_rest {front rest : List Record} (split : held.listing request = front ++ rest)
    (ascends : (held.listing request).Pairwise fun left right =>
      nearest (left.intAt field) < nearest (right.intAt field)) :
    held.shown request (front.getLast?.map fun record => [.int (record.intAt field)]) =
      .ok (rest.take request.limit) := by
  rcases List.eq_nil_or_concat front with rfl | ⟨before, last, rfl⟩
  · rw [List.getLast?_nil, Option.map_none, numbered.search_first, split, List.nil_append]
  · have listed : last ∈ held.listing request := by
      rw [split]
      simp
    have word := (numbered.integers last listed).member.2
    rw [List.concat_eq_append, List.append_assoc, List.singleton_append] at split
    rw [split] at ascends
    rw [List.concat_eq_append, List.getLast?_concat, Option.map_some, numbered.search_behind word,
      split, filter_above (fun record : Record => nearest (record.intAt field)) before last
        rest ascends]

theorem flatten_pages {front rest : List Record} {turns : Nat} (positive : 0 < request.limit)
    (split : held.listing request = front ++ rest) (enough : rest.length ≤ turns)
    (ascends : (held.listing request).Pairwise fun left right =>
      nearest (left.intAt field) < nearest (right.intAt field)) :
    (held.pages request (fun record => [.int (record.intAt field)]) turns
      (front.getLast?.map fun record => [.int (record.intAt field)])).flatten = rest := by
  -- What is listed is split at the cursor, and each turn moves it into the rest.
  induction turns generalizing front rest with
  | zero =>
    have none : rest = [] := List.eq_nil_of_length_eq_zero (by omega)
    rw [pages, List.flatten_nil, none]
  | succ turns ih =>
    rw [pages, numbered.search_rest split ascends]
    simp only
    cases shown : (rest.take request.limit).getLast? with
    | none =>
      rw [List.getLast?_eq_none_iff, List.take_eq_nil_iff] at shown
      have none : rest = [] := by
        rcases shown with zero | none
        · omega
        · exact none
      rw [List.flatten_nil, none]
    | some last =>
      -- The next page comes behind all that has been shown, which ends with this page.
      have onward : held.listing request =
          (front ++ rest.take request.limit) ++ rest.drop request.limit := by
        rw [List.append_assoc, List.take_append_drop]
        exact split
      have fewer : (rest.drop request.limit).length ≤ turns := by
        rw [List.length_drop]
        have some : rest ≠ [] := by
          rintro rfl
          rw [List.take_nil] at shown
          cases shown
        have long := List.length_pos_iff.mpr some
        omega
      have later := ih onward fewer
      rw [List.getLast?_append, shown, Option.some_or, Option.map_some] at later
      rw [List.flatten_cons, later, List.take_append_drop]

end IsNumbered

/-- Rounding brings no two of the integers together that a search lists. -/
def KeepsApart (held : Holdings) (request : Search) (field : String) : Prop :=
  ∀ left ∈ held.listing request, ∀ right ∈ held.listing request,
    nearest (left.intAt field) = nearest (right.intAt field) →
      left.intAt field = right.intAt field

namespace KeepsApart

/-- Integers that are near zero, or far from each other, are kept apart. -/
theorem of_clear (numbered : held.IsNumbered request field)
    (clear : ∀ left ∈ held.listing request, ∀ right ∈ held.listing request,
      left.intAt field = right.intAt field ∨
        ((left.intAt field).natAbs ≤ 2 ^ 53 ∧ (right.intAt field).natAbs ≤ 2 ^ 53) ∨
        2048 < (left.intAt field - right.intAt field).natAbs) :
    held.KeepsApart request field := by
  intro left first right second same
  rcases clear left first right second with equal | apart
  · exact equal
  · exact Binary64.eq_of_nearest_eq (numbered.integers left first).member.2
      (numbered.integers right second).member.2 apart same

theorem ascends (apart : held.KeepsApart request field) (numbered : held.IsNumbered request field) :
    (held.listing request).Pairwise fun left right => left.intAt field ≤ right.intAt field := by
  apply numbered.listing_ascends.imp_of_mem
  intro left right first second ordered
  by_cases same : nearest (left.intAt field) = nearest (right.intAt field)
  · exact Int.le_of_eq (apart left first right second same)
  · exact Int.le_of_lt (Binary64.lt_of_nearest_lt (by omega))

theorem strictly_ascends (apart : held.KeepsApart request field)
    (numbered : held.IsNumbered request field)
    (distinct : ((held.listing request).map fun record => record.intAt field).Nodup) :
    (held.listing request).Pairwise fun left right =>
      nearest (left.intAt field) < nearest (right.intAt field) := by
  have different := List.pairwise_map.mp distinct
  apply (numbered.listing_ascends.and different).imp_of_mem
  intro left right first second ⟨ordered, unlike⟩
  by_cases same : nearest (left.intAt field) = nearest (right.intAt field)
  · exact absurd (apart left first right second same) unlike
  · omega

end KeepsApart

/-- A search lists all that matches in the order of what the integers are rounded to, and shows
behind a number exactly what is rounded to more. That is never less than the number or equal to it,
and it is all that is greater where rounding keeps the number apart. Where it keeps all integers
apart they come in their own order, and pages behind distinct ones show all there is. -/
theorem integers_are_listed_as_rounded (numbered : held.IsNumbered request field) :
    (∀ record, record ∈ held.listing request ↔ record.index = request.index ∧
      held.document? request.index record.id = some record.source ∧
        request.accepts record.source = true) ∧
    ((held.listing request).Pairwise fun left right =>
      nearest (left.intAt field) ≤ nearest (right.intAt field)) ∧
    held.shown request none =
      .ok ((held.listing request).take request.limit) ∧
    (∀ number, IsWord number →
      held.shown request (some [.int number]) =
        .ok (((held.listing request).filter fun record =>
          decide (nearest number < nearest (record.intAt field))).take request.limit) ∧
      (∀ page, held.shown request (some [.int number]) = .ok page →
        ∀ record ∈ page, number < record.intAt field) ∧
      ((∀ record ∈ held.listing request, nearest number = nearest (record.intAt field) →
          number = record.intAt field) →
        held.shown request (some [.int number]) =
          .ok (((held.listing request).filter fun record =>
            decide (number < record.intAt field)).take request.limit))) ∧
    (held.KeepsApart request field →
      ((held.listing request).Pairwise fun left right =>
        left.intAt field ≤ right.intAt field) ∧
      (0 < request.limit →
        ((held.listing request).map fun record => record.intAt field).Nodup →
        ∀ turns, (held.listing request).length ≤ turns →
          (held.pages request (fun record => [.int (record.intAt field)]) turns
            none).flatten = held.listing request)) := by
  refine ⟨fun record => mem_listing_iff, numbered.listing_ascends, numbered.search_first, ?behind,
    ?apart⟩
  case behind =>
    intro number word
    have shows := numbered.search_behind word
    refine ⟨shows, ?above, ?all⟩
    case above =>
      intro page answered record member
      rw [shows] at answered
      cases answered
      have above := (List.mem_filter.mp (List.mem_of_mem_take member)).2
      exact Binary64.lt_of_nearest_lt (of_decide_eq_true above)
    case all =>
      intro apart
      rw [shows]
      apply congrArg fun shown : List Record => Except.ok (shown.take request.limit)
      apply List.filter_congr
      intro record listed
      exact decide_eq_decide.mpr (Binary64.nearest_lt_iff (apart record listed))
  case apart =>
    intro apart
    refine ⟨apart.ascends numbered, fun positive distinct turns enough => ?_⟩
    exact numbered.flatten_pages positive (List.nil_append _).symm enough
      (apart.strictly_ascends numbered distinct)

/-- Roots with keys from the least word to the greatest. -/
def farApart : Holdings :=
  Holdings.empty.write "live" [
    ("a", .object [("key", .int 18446744073709551615)]),
    ("b", .object [("key", .int 4503599627370497)]),
    ("c", .object [("key", .int 4503599627370496)]),
    ("d", .object [("key", .int (-9223372036854775808))])]

def byKey (limit : Nat) : Search := ⟨"live", [], [⟨"key", .ascending⟩], limit, none⟩

theorem far_keys_are_paged :
    farApart.IsNumbered (byKey 3) "key" ∧ farApart.KeepsApart (byKey 3) "key" ∧
      (farApart.listing (byKey 3)).map Record.id = ["d", "c", "b", "a"] ∧
      (farApart.pages (byKey 3) (fun record => [.int (record.intAt "key")]) 4 none).flatten =
        farApart.listing (byKey 3) ∧
      farApart.shown (byKey 3) (some [.int 4503599627370496]) =
        .ok (((farApart.listing (byKey 3)).filter fun record =>
          decide (4503599627370496 < record.intAt "key")).take 3) := by
  have numbered : farApart.IsNumbered (byKey 3) "key" :=
    ⟨by decide +kernel, rfl, by decide +kernel⟩
  have apart : farApart.KeepsApart (byKey 3) "key" := .of_clear numbered (by decide +kernel)
  obtain ⟨_, _, _, behind, ordered⟩ := integers_are_listed_as_rounded numbered
  obtain ⟨_, paged⟩ := ordered apart
  have word : IsWord 4503599627370496 := by decide
  refine ⟨numbered, apart, by decide +kernel, ?_, ?_⟩
  · exact paged (by decide) (by decide +kernel) 4 (by decide +kernel)
  · exact (behind _ word).2.2 (by decide +kernel)

/-- Two keys next to each other that are rounded to one. -/
def neighbours : Holdings :=
  Holdings.empty.write "live" [
    ("a", .object [("key", .int 9007199254740993)]),
    ("b", .object [("key", .int 9007199254740992)])]

/-- The greater one is listed first, no search shows it behind the other one, and pages of one
document end before the other one. -/
theorem neighbours_change_places :
    (neighbours.shown (byKey 2) none).map (·.map (·.intAt "key")) =
        .ok [9007199254740993, 9007199254740992] ∧
      (neighbours.shown (byKey 2) (some [.int 9007199254740992])).map (·.map Record.id) = .ok [] ∧
      (neighbours.pages (byKey 1) (fun record => [.int (record.intAt "key")]) 3 none).map
        (·.map Record.id) = [["a"]] := by
  decide +kernel

end Holdings

end Archivist
