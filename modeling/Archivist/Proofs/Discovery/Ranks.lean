import Archivist.Proofs.Discovery.Paging
import Mathlib.Data.Prod.Lex

set_option autoImplicit false

namespace Archivist

open Calendar (Instant)
open Json (Value)

/-- What roots are listed by: the seconds and nanoseconds of an end date, and a number. -/
abbrev Rank : Type := ℤ ×ₗ ℕ ×ₗ ℕ

namespace Rank

def of (endDate : Instant) (number : Nat) : Rank :=
  toLex (endDate.seconds, toLex (endDate.nanos, number))

theorem of_lt_of_iff (first second : Instant) (number other : Nat) :
    of first number < of second other ↔
      (first.order second).then (compare number other) = .lt := by
  simp only [of, Instant.order, Prod.Lex.toLex_lt_toLex, Ordering.then_eq_lt, Ordering.then_eq_eq,
    Nat.compare_eq_lt, Nat.compare_eq_eq, Int.compare_eq_lt, Int.compare_eq_eq]
  tauto

theorem of_lt_of_iff_gt (first second : Instant) (number other : Nat) :
    of second other < of first number ↔
      (first.order second).then (compare number other) = .gt := by
  simp only [of, Instant.order, Prod.Lex.toLex_lt_toLex, Ordering.then_eq_gt, Ordering.then_eq_eq,
    Nat.compare_eq_gt, Nat.compare_eq_eq, Int.compare_eq_gt, Int.compare_eq_eq]
  rw [eq_comm, eq_comm]
  tauto

theorem seconds_le_of_lt {first second : Instant} {number other : Nat}
    (below : of first number < of second other) : first.seconds ≤ second.seconds := by
  rw [of, of, Prod.Lex.toLex_lt_toLex] at below
  rcases below with earlier | same
  · exact earlier.le
  · exact same.1.le

end Rank

namespace Finder

variable {finder : Finder} {partitions : List Nat} {cutoff : Instant} {held : Holdings}

structure IsRanked (finder : Finder) (source : Value) (endDate : Instant) (number : Nat) :
    Prop where
  timed : ∃ written, source.member? finder.root.endDateField = some (.text written) ∧
    Instant.read written = some endDate
  numbered : source.member? finder.root.idField = some (.nat number)
  small : number < Nat.pow 2 53

theorem order_by_endDate {left right : Value} {first second : Instant} {field : String}
    (timed : ∃ written, left.member? field = some (.text written) ∧
      Instant.read written = some first)
    (also : ∃ written, right.member? field = some (.text written) ∧
      Instant.read written = some second) :
    orderMissingLast (left.member? field) (right.member? field) = first.order second := by
  obtain ⟨_, member, read⟩ := timed
  obtain ⟨_, found, shown⟩ := also
  simp only [member, found, orderMissingLast, Value.order, quantityOf?, instantOf?, read, shown]

theorem order_by_number {left right : Value} {number other : Nat} {field : String}
    (numbered : left.member? field = some (.nat number))
    (also : right.member? field = some (.nat other)) (small : number < Nat.pow 2 53)
    (little : other < Nat.pow 2 53) :
    orderMissingLast (left.member? field) (right.member? field) = compare number other := by
  have whole : ∀ value : Nat, (Json.Number.integer value).toBinary64 = Binary64.ofNat value := by
    intro value
    simp only [Json.Number.toBinary64, Binary64.ofInt, Int.natAbs_natCast,
      show ¬(value : Int) < 0 from Int.not_lt.mpr (Int.natCast_nonneg value), ↓reduceIte]
  rw [numbered, also]
  simp only [orderMissingLast, Value.order, Value.nat, quantityOf?, whole,
    Binary64.order_ofNat number other small little]

variable {left right : Value} {first second : Instant} {number other : Nat}

theorem orderBy_eq_lt_iff (ranked : finder.IsRanked left first number)
    (also : finder.IsRanked right second other) :
    orderBy left right finder.sort = .lt ↔ Rank.of first number < Rank.of second other := by
  rw [Rank.of_lt_of_iff]
  simp only [sort, orderBy, SortField.order, Direction.apply,
    order_by_endDate ranked.timed also.timed,
    order_by_number ranked.numbered also.numbered ranked.small also.small]
  cases first.order second <;> cases compare number other <;> decide

theorem isAfter_cursorOf (ranked : finder.IsRanked left first number) (record : Record)
    (also : finder.IsRanked record.source second other) :
    isAfter left finder.sort (finder.cursorOf record) =
      decide (Rank.of second other < Rank.of first number) := by
  have time := order_by_endDate ranked.timed also.timed
  have size := order_by_number ranked.numbered also.numbered ranked.small also.small
  obtain ⟨_, member, _⟩ := also.timed
  rw [member] at time
  rw [also.numbered] at size
  simp only [sort, cursorOf, member, also.numbered, Option.getD_some, isAfter,
    SortField.orderAgainst, Direction.apply, time, size, Rank.of_lt_of_iff_gt]
  cases first.order second <;> cases compare number other <;> decide

def rank (finder : Finder) (source : Value) : Rank :=
  Rank.of ((source.instantAt finder.root.endDateField).getD ⟨0, 0⟩)
    (((source.member? finder.root.idField).bind Value.nat?).getD 0)

def idText (finder : Finder) (record : Record) : String :=
  (record.source.textAt finder.root.idField).getD record.id

theorem candidate?_of_timed {record : Record} {endDate : Instant}
    (timed : record.source.instantAt finder.root.endDateField = some endDate) :
    finder.candidate? record = some ⟨finder.idText record, endDate⟩ := by
  rw [candidate?_eq, timed, Option.map_some, idText]

def HasRank (finder : Finder) (source : Value) : Prop :=
  ∃ endDate number, finder.IsRanked source endDate number

theorem IsRanked.instantAt_eq {source : Value} {endDate : Instant} {number : Nat}
    (ranked : finder.IsRanked source endDate number) :
    source.instantAt finder.root.endDateField = some endDate := by
  obtain ⟨written, member, read⟩ := ranked.timed
  simp only [Value.instantAt, member, Option.bind_some, instantOf?, read]

theorem IsRanked.rank_eq {source : Value} {endDate : Instant} {number : Nat}
    (ranked : finder.IsRanked source endDate number) :
    finder.rank source = Rank.of endDate number := by
  have numbered : (Value.nat number).nat? = some number := rfl
  rw [rank, ranked.instantAt_eq, ranked.numbered, Option.bind_some, numbered, Option.getD_some,
    Option.getD_some]

theorem goesBy_rank (finder : Finder) : finder.GoesBy finder.rank finder.HasRank where
  ordered left right ranked also := by
    obtain ⟨_, _, ranked⟩ := ranked
    obtain ⟨_, _, also⟩ := also
    rw [ranked.rank_eq, also.rank_eq]
    exact orderBy_eq_lt_iff ranked also
  after source record ranked also := by
    obtain ⟨_, _, ranked⟩ := ranked
    obtain ⟨_, _, also⟩ := also
    rw [ranked.rank_eq, also.rank_eq]
    exact isAfter_cursorOf ranked record also

theorem eq_of_rank {left right : Value} (ranked : finder.HasRank left)
    (also : finder.HasRank right) (same : finder.rank left = finder.rank right) :
    left.instantAt finder.root.endDateField = right.instantAt finder.root.endDateField ∧
      left.member? finder.root.idField = right.member? finder.root.idField := by
  obtain ⟨first, number, ranked⟩ := ranked
  obtain ⟨second, other, also⟩ := also
  rw [ranked.rank_eq, also.rank_eq, Rank.of, Rank.of] at same
  simp only [EmbeddingLike.apply_eq_iff_eq, Prod.mk.injEq] at same
  obtain ⟨seconds, nanos, rfl⟩ := same
  have times : first = second := by
    cases first
    cases second
    cases seconds
    cases nanos
    rfl
  rw [ranked.instantAt_eq, also.instantAt_eq, ranked.numbered, also.numbered, times]
  exact ⟨rfl, rfl⟩

/-- The candidates that a store holds are numbered within the integers that binary64 tells apart,
and no two of them have both the same end date and the same number. -/
structure Ranks (finder : Finder) (partitions : List Nat) (cutoff : Instant) (held : Holdings) :
    Prop where
  numbered : ∀ id source, held.document? finder.root.index id = some source →
    finder.finds partitions cutoff source = true → ∃ number < Nat.pow 2 53,
      source.member? finder.root.idField = some (.nat number)
  distinct : ∀ id other source another,
    held.document? finder.root.index id = some source →
    held.document? finder.root.index other = some another →
    finder.finds partitions cutoff source = true → finder.finds partitions cutoff another = true →
    source.instantAt finder.root.endDateField = another.instantAt finder.root.endDateField →
    source.member? finder.root.idField = another.member? finder.root.idField → id = other

namespace Ranks

variable (ranks : finder.Ranks partitions cutoff held)
include ranks

theorem isRanked {id : String} {source : Value}
    (there : held.document? finder.root.index id = some source)
    (found : finder.finds partitions cutoff source = true) : finder.HasRank source := by
  obtain ⟨number, small, numbered⟩ := ranks.numbered id source there found
  obtain ⟨endDate, written, dated, read⟩ := exists_written_of_finds found
  exact ⟨endDate, number, ⟨written, dated, read⟩, numbered, small⟩

theorem hasRank {record : Record} (member : record ∈ finder.listing partitions cutoff held) :
    finder.HasRank record.source := by
  obtain ⟨_, there, found⟩ := (mem_listing record).mp member
  exact ranks.isRanked there found

theorem listing_sorted : (finder.listing partitions cutoff held).Pairwise fun left right =>
    finder.rank left.source < finder.rank right.source := by
  have ascends := finder.goesBy_rank.listing_ascends fun record member => ranks.hasRank member
  refine (ascends.and listing_apart).imp_of_mem ?_
  intro left right member also both
  refine lt_of_le_of_ne both.1 fun same => both.2 ?_
  obtain ⟨_, there, found⟩ := (mem_listing left).mp member
  obtain ⟨_, kept, listed⟩ := (mem_listing right).mp also
  obtain ⟨times, numbers⟩ := eq_of_rank (ranks.hasRank member) (ranks.hasRank also) same
  exact ranks.distinct _ _ _ _ there kept found listed times numbers

theorem unseen_sorted (cursor : Option (List Value)) :
    (finder.unseen partitions cutoff held cursor).Pairwise fun left right =>
      finder.rank left.source < finder.rank right.source := by
  cases cursor with
  | none => exact ranks.listing_sorted
  | some values => exact ranks.listing_sorted.filter _

end Ranks

theorem ranks_iff : finder.Ranks partitions cutoff held ↔
    (∀ document ∈ held.documents finder.root.index,
      finder.finds partitions cutoff document.2 = true →
        ((document.2.member? finder.root.idField).bind Value.nat?).any
          (fun number => decide (number < Nat.pow 2 53)) = true) ∧
    ∀ document ∈ held.documents finder.root.index, ∀ other ∈ held.documents finder.root.index,
      finder.finds partitions cutoff document.2 = true →
        finder.finds partitions cutoff other.2 = true →
          finder.rank document.2 = finder.rank other.2 → document.1 = other.1 := by
  constructor
  · intro ranks
    refine ⟨fun document member found => ?_, fun document member other also found listed same => ?_⟩
    · obtain ⟨number, small, numbered⟩ :=
        ranks.numbered _ _ ((held.mem_documents_iff _ _ _).mp member) found
      have shown : (Value.nat number).nat? = some number := rfl
      rw [numbered, Option.bind_some, shown, Option.any_some, decide_eq_true_eq]
      exact small
    · have there := (held.mem_documents_iff _ _ _).mp member
      have kept := (held.mem_documents_iff _ _ _).mp also
      obtain ⟨times, numbers⟩ :=
        eq_of_rank (ranks.isRanked there found) (ranks.isRanked kept listed) same
      exact ranks.distinct _ _ _ _ there kept found listed times numbers
  · intro given
    obtain ⟨numbered, distinct⟩ := given
    refine ⟨fun id source there found => ?_,
      fun id other source another there kept found listed times numbers => ?_⟩
    · have checked := numbered (id, source) ((held.mem_documents_iff _ _ _).mpr there) found
      obtain ⟨number, shown, small⟩ := (Option.any_eq_true _ _).mp checked
      obtain ⟨value, member, read⟩ := Option.bind_eq_some_iff.mp shown
      exact ⟨number, of_decide_eq_true small, member.trans (congrArg some
        (Value.eq_nat_of_nat? read))⟩
    · refine distinct (id, source) ((held.mem_documents_iff _ _ _).mpr there) (other, another)
        ((held.mem_documents_iff _ _ _).mpr kept) found listed ?_
      rw [rank, rank, times, numbers]

instance (finder : Finder) (partitions : List Nat) (cutoff : Instant) (held : Holdings) :
    Decidable (finder.Ranks partitions cutoff held) :=
  decidable_of_iff _ ranks_iff.symm

end Finder

end Archivist
