import Archivist.Proofs.Discovery.Ranks
import Archivist.Proofs.Store.Kinds

set_option autoImplicit false

namespace Archivist

open Calendar (Instant)
open Json (Value)

namespace Finder

variable {finder : Finder} {kind : Kind}

/-- A root with a readable end date and an id of some kind. -/
structure HasKind (finder : Finder) (kind : Kind) (source : Value) : Prop where
  timed : ∃ endDate written, source.member? finder.root.endDateField = some (.text written) ∧
    Instant.read written = some endDate
  identified : ∃ id, source.member? finder.root.idField = some id ∧ id.kind = kind

/-- What roots with ids of one kind are listed by. -/
def size (finder : Finder) (source : Value) : (ℤ ×ₗ ℕ) ×ₗ Value.Size :=
  toLex (((source.instantAt finder.root.endDateField).map Instant.moment).getD (toLex (0, 0)),
    ((source.member? finder.root.idField).getD .null).size)

theorem compares_size {left right : Value} (first : finder.HasKind kind left)
    (second : finder.HasKind kind right) :
    ((orderMissingLast (left.member? finder.root.endDateField)
        (right.member? finder.root.endDateField)).then
      (orderMissingLast (left.member? finder.root.idField)
        (right.member? finder.root.idField))).Compares (finder.size left) (finder.size right) := by
  obtain ⟨⟨endDate, written, dated, read⟩, id, member, idKind⟩ := first
  obtain ⟨⟨other, shown, also, found⟩, another, there, otherKind⟩ := second
  rw [order_by_endDate ⟨written, dated, read⟩ ⟨shown, also, found⟩]
  simp only [member, there, orderMissingLast, size, Value.instantAt, dated, also, Option.bind_some,
    instantOf?, read, found, Option.map_some, Option.getD_some]
  exact compares_then (endDate.compares_order other)
    (Value.compares_order (idKind.trans otherKind.symm))

theorem goesBy_size (finder : Finder) (kind : Kind) :
    finder.GoesBy finder.size (finder.HasKind kind) where
  ordered left right first second := by
    rw [← (compares_size first second).eq_lt]
    simp only [sort, orderBy, SortField.order, Direction.apply]
    cases orderMissingLast (left.member? finder.root.endDateField)
      (right.member? finder.root.endDateField) <;>
    cases orderMissingLast (left.member? finder.root.idField)
      (right.member? finder.root.idField) <;> decide
  after source record first second := by
    have compared := (compares_size first second).eq_gt
    obtain ⟨⟨_, written, dated, _⟩, id, member, _⟩ := second
    rw [Bool.eq_iff_iff, decide_eq_true_eq, ← compared]
    simp only [sort, cursorOf, dated, member, Option.getD_some, isAfter, SortField.orderAgainst,
      Direction.apply]
    cases orderMissingLast (source.member? finder.root.endDateField) (some (.text written)) <;>
    cases orderMissingLast (source.member? finder.root.idField) (some id) <;> decide

end Finder

end Archivist
