import Archivist.Proofs.Sorting.Runs
import Archivist.Proofs.Store.Contents
import Mathlib.Data.List.Nodup
import Mathlib.Order.Compare
import Mathlib.Order.Lattice

set_option autoImplicit false

namespace Archivist

namespace Sorting

variable {α κ : Type} {precedes : α → α → Bool} {among : α → Prop}

theorem Orders.of_order (order : α → α → Ordering) [Std.TransCmp order]
    (agrees : ∀ left right, among left → among right →
      (precedes left right = true ↔ order left right = .lt)) : Orders precedes among where
  asymm left right isLeft isRight before := by
    rw [agrees left right isLeft isRight] at before
    rw [← Bool.not_eq_true, agrees right left isRight isLeft, Std.OrientedCmp.gt_iff_lt.mpr before]
    simp
  between left middle right isLeft isMiddle isRight before := by
    rw [agrees left right isLeft isRight] at before
    rw [agrees left middle isLeft isMiddle, agrees middle right isMiddle isRight]
    by_cases first : order left middle = .lt
    · exact Or.inl first
    · apply Or.inr
      rw [← Ordering.isGE_iff_ne_lt, Std.OrientedCmp.isGE_iff_isLE] at first
      exact Std.TransCmp.lt_of_isLE_of_lt first before

theorem Orders.of_key [LinearOrder κ] (key : α → κ)
    (agrees : ∀ left right, among left → among right →
      (precedes left right = true ↔ key left < key right)) : Orders precedes among :=
  .of_order (compareOn key) fun left right isLeft isRight => by
    rw [agrees left right isLeft isRight, compareOn, compare_lt_iff_lt]

end Sorting

section Ordered

variable {α κ : Type}

theorem filter_behind {order : α → α → Ordering} [Std.OrientedCmp order] (front : List α)
    (last : α) (rest : List α)
    (sorted : (front ++ last :: rest).Pairwise fun left right => order left right = .lt) :
    (front ++ last :: rest).filter (fun item => order item last == .gt) = rest := by
  obtain ⟨_, tail, before⟩ := List.pairwise_append.mp sorted
  have below : front.filter (fun item => order item last == .gt) = [] := by
    refine List.filter_eq_nil_iff.mpr fun item member => ?_
    rw [before item member last List.mem_cons_self]
    decide
  have here : order last last = .eq := Std.ReflCmp.compare_self
  have after : rest.filter (fun item => order item last == .gt) = rest := by
    refine List.filter_eq_self.mpr fun item member => beq_iff_eq.mpr ?_
    exact Std.OrientedCmp.gt_iff_lt.mpr ((List.pairwise_cons.mp tail).1 item member)
  rw [List.filter_append, below, List.nil_append, List.filter_cons, here, after]
  rfl

variable [LinearOrder κ] (key : α → κ)

theorem filter_above_of_le (front : List α) (last : α) (rest : List α)
    (sorted : (front ++ last :: rest).Pairwise fun left right => key left ≤ key right) :
    (front ++ last :: rest).filter (fun item => decide (key last < key item)) =
      rest.filter fun item => decide (key last < key item) := by
  obtain ⟨_, _, before⟩ := List.pairwise_append.mp sorted
  have below : front.filter (fun item => decide (key last < key item)) = [] := by
    refine List.filter_eq_nil_iff.mpr fun item member => ?_
    rw [decide_eq_true_eq]
    exact not_lt.mpr (before item member last List.mem_cons_self)
  simp only [List.filter_append, below, List.nil_append, List.filter_cons, lt_irrefl, decide_false,
    Bool.false_eq_true, ↓reduceIte]

theorem filter_above (front : List α) (last : α) (rest : List α)
    (sorted : (front ++ last :: rest).Pairwise fun left right => key left < key right) :
    (front ++ last :: rest).filter (fun item => decide (key last < key item)) = rest := by
  rw [filter_above_of_le key front last rest (sorted.imp le_of_lt)]
  obtain ⟨_, tail, _⟩ := List.pairwise_append.mp sorted
  have after := (List.pairwise_cons.mp tail).1
  exact List.filter_eq_self.mpr fun item member => decide_eq_true (after item member)

end Ordered

namespace Search

theorem listing_perm (search : Search) (records : List Record) :
    (search.listing records).Perm (records.filter fun record => search.accepts record.source) := by
  rw [listing]
  cases sorts : Sorting.sort? search.precedes (search.found records) with
  | none => exact List.Perm.refl _
  | some sorted => exact Sorting.sort?_perm _ sorted sorts

theorem mem_listing (search : Search) (records : List Record) (record : Record) :
    record ∈ search.listing records ↔ record ∈ records ∧ search.accepts record.source = true := by
  rw [(search.listing_perm records).mem_iff, List.mem_filter]

theorem mem_listing_of_mem_found {search : Search} {records : List Record} {record : Record}
    (member : record ∈ search.found records) : record ∈ search.listing records :=
  (search.listing_perm records).mem_iff.mpr member

section Sorted

variable {search : Search} {records : List Record} {among : Record → Prop}
  (orders : Sorting.Orders search.precedes among)
  (known : ∀ record ∈ search.listing records, among record)
include orders known

theorem listing_sorted : search.breaksOff records = false ∧
    Sorting.Sorted search.precedes (search.listing records) := by
  obtain ⟨sorted, sorts, inOrder⟩ := Sorting.sort?_settles orders (search.found records)
    fun record member => known record (mem_listing_of_mem_found member)
  rw [breaksOff, listing, sorts]
  exact ⟨rfl, inOrder⟩

end Sorted

theorem listing_ascends {κ : Type} [LinearOrder κ] {search : Search} {records : List Record}
    (key : Record → κ)
    (agrees : ∀ left ∈ search.listing records, ∀ right ∈ search.listing records,
      (search.precedes left right = true ↔ key left < key right)) :
    (search.listing records).Pairwise fun left right => key left ≤ key right := by
  have orders : Sorting.Orders search.precedes (· ∈ search.listing records) :=
    .of_key key fun left right isLeft isRight => agrees left isLeft right isRight
  apply (listing_sorted orders fun _ => id).2.imp_of_mem
  intro left right first second notBefore
  rw [← Bool.not_eq_true, agrees right second left first] at notBefore
  exact not_lt.mp notBefore

theorem mem_of_mem_page {search : Search} {records : List Record} {record : Record}
    (member : record ∈ search.page records) :
    record ∈ records ∧ search.accepts record.source = true := by
  rw [← search.mem_listing]
  have among := List.mem_of_mem_take member
  split at among
  · exact (List.mem_filter.mp among).1
  · exact among

end Search

theorem Holdings.mem_records (index : String) (documents : Documents) (record : Record) :
    record ∈ records index documents ↔
      record.index = index ∧ (record.id, record.source) ∈ documents := by
  simp only [records, List.mem_map]
  constructor
  · intro given
    obtain ⟨document, member, rfl⟩ := given
    exact ⟨rfl, member⟩
  · intro given
    obtain ⟨rfl, member⟩ := given
    exact ⟨_, member, rfl⟩

namespace Holdings

variable {now : Holdings} {request : Search} {page : List Record}

theorem page_of_search (answered : (now.perform (.search request)).1 = .ok page) :
    page = request.page (records request.index (now.documents request.index)) := by
  simp only [perform] at answered
  cases there : now.documents? request.index with
  | none =>
    rw [there] at answered
    cases answered
  | some documents =>
    rw [there] at answered
    cases answered
    rw [now.documents_of_documents? request.index documents there]

theorem mem_of_search (answered : (now.perform (.search request)).1 = .ok page) :
    ∀ record ∈ page, now.document? request.index record.id = some record.source ∧
      request.accepts record.source = true := by
  intro record member
  rw [page_of_search answered] at member
  obtain ⟨among, accepted⟩ := Search.mem_of_mem_page member
  obtain ⟨_, held⟩ := (mem_records _ _ _).mp among
  exact ⟨(now.mem_documents_iff _ _ _).mp held, accepted⟩

/-- A search without a cursor has a full page when there are enough documents to show, which may go
by names of any kind. -/
theorem limit_le_of_search {names : List String} (name : Record → String)
    (answered : (now.perform (.search request)).1 = .ok page) (first : request.after = none)
    (once : names.Nodup) (enough : request.limit ≤ names.length)
    (found : ∀ known ∈ names, ∃ id source, now.document? request.index id = some source ∧
      request.accepts source = true ∧ name ⟨id, request.index, source⟩ = known) :
    request.limit ≤ page.length := by
  have inside : names ⊆ (request.listing
      (records request.index (now.documents request.index))).map name := by
    intro known among
    obtain ⟨id, source, held, accepted, rfl⟩ := found known among
    have member := (mem_records request.index _ ⟨id, request.index, source⟩).mpr
      ⟨rfl, (now.mem_documents_iff request.index id source).mpr held⟩
    exact List.mem_map_of_mem ((Search.mem_listing request _ _).mpr ⟨member, accepted⟩)
  have shorter := once.length_le_of_subset inside
  rw [List.length_map] at shorter
  rw [page_of_search answered, Search.page, first, List.length_take]
  exact Nat.le_min.mpr ⟨Nat.le_refl _, Nat.le_trans enough shorter⟩

theorem nodup_ids_listing (now : Holdings) (request : Search) :
    ((request.listing (records request.index (now.documents request.index))).map
      Record.id).Nodup := by
  have once : ((records request.index (now.documents request.index)).map Record.id).Nodup := by
    rw [records, List.map_map]
    refine List.pairwise_map.mpr ((now.ascending_documents _).imp ?_)
    intro left right before same
    have ids : left.1 = right.1 := same
    exact String.lt_irrefl _ (ids ▸ before)
  have alike := (request.listing_perm
    (records request.index (now.documents request.index))).map Record.id
  exact alike.nodup_iff.mpr (once.sublist (List.filter_sublist.map Record.id))

theorem nodup_of_search (answered : (now.perform (.search request)).1 = .ok page) :
    (page.map Record.id).Nodup := by
  rw [page_of_search answered, Search.page]
  refine (now.nodup_ids_listing request).sublist
    (List.Sublist.map Record.id ((List.take_sublist _ _).trans ?_))
  split
  · exact List.filter_sublist
  · exact List.Sublist.refl _

end Holdings

end Archivist
