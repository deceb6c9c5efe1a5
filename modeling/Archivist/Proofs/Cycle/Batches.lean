import Archivist.Proofs.Cycle.Due
import Archivist.Proofs.Discovery.Grouping

set_option autoImplicit false

namespace Archivist

open Calendar (Instant)
open Json (Value)

namespace Finder

theorem candidate?_eq (finder : Finder) (record : Record) :
    finder.candidate? record = (record.source.instantAt finder.root.endDateField).map fun endDate =>
      ⟨(record.source.textAt finder.root.idField).getD record.id, endDate⟩ := by
  simp only [candidate?, Value.instantAt]
  split
  · rename_i written found
    simp only [found, Option.bind_some, instantOf?]
    rfl
  · rename_i other
    cases found : record.source.member? finder.root.endDateField with
    | none => rfl
    | some value =>
      cases value with
      | text written => exact absurd found (other written)
      | _ => rfl

end Finder

namespace Archiver

variable {archiver : Archiver} {cutoff : Instant} {start : Holdings}

theorem exists_instant_of_finds {source : Value} (found : archiver.finds cutoff source = true) :
    ∃ endDate, source.instantAt archiver.finder.root.endDateField = some endDate := by
  obtain ⟨_, _, endDate, timed, _⟩ := finds_iff.mp found
  exact ⟨endDate, timed⟩

/-- The ids of a batch are those of roots that are due, all of the bucket of its date. -/
structure Gathers (archiver : Archiver) (cutoff : Instant) (start : Holdings) (batch : Batch) :
    Prop where
  nonempty : batch.ids ≠ []
  roots : ∀ text ∈ batch.ids, ∃ id source endDate,
    start.document? archiver.finder.root.index id = some source ∧
    archiver.finds cutoff source = true ∧
    source.textAt archiver.finder.root.idField = some text ∧
    source.instantAt archiver.finder.root.endDateField = some endDate ∧
    archiver.finder.rollover.bucket endDate archiver.finder.offset = some batch.finishDate

theorem Gathers.isDue {batch : Batch} {suffix : String}
    (gathers : archiver.Gathers cutoff start batch)
    (named : archiver.mover.namer.suffix batch.finishDate = some suffix) :
    ∀ text ∈ batch.ids, archiver.IsDue cutoff start text suffix := by
  intro text among
  obtain ⟨id, source, endDate, held, found, written, timed, bucket⟩ := gathers.roots text among
  refine ⟨id, source, held, found, written, ?_⟩
  simp only [suffix?, timed, Option.bind_some, bucket, named]

theorem Gathers.exists_suffix {batch : Batch} (gathers : archiver.Gathers cutoff start batch)
    (healthy : archiver.Healthy cutoff start) :
    ∃ suffix, archiver.mover.namer.suffix batch.finishDate = some suffix := by
  obtain ⟨text, among⟩ := List.exists_mem_of_ne_nil _ gathers.nonempty
  obtain ⟨id, source, endDate, held, found, _, timed, bucket⟩ := gathers.roots text among
  obtain ⟨suffix, named⟩ := healthy.dated id source held found
  rw [suffix?, timed, Option.bind_some, bucket, Option.bind_some] at named
  exact ⟨suffix, named⟩

/-- A record shows a root that was due at the start, with a text for its id. -/
structure Shows (archiver : Archiver) (cutoff : Instant) (start : Holdings) (record : Record) :
    Prop where
  held : start.document? archiver.finder.root.index record.id = some record.source
  found : archiver.finds cutoff record.source = true
  named : ∃ text, record.source.textAt archiver.finder.root.idField = some text

theorem gathers_of_group {page : List Record}
    (shown : ∀ record ∈ page, archiver.Shows cutoff start record) {batches : List Batch}
    (grouped : archiver.finder.group (page.filterMap archiver.finder.candidate?) = some batches) :
    ∀ batch ∈ batches, archiver.Gathers cutoff start batch := by
  intro batch member
  obtain ⟨nonempty, inside⟩ := Finder.bucket_of_group grouped batch member
  refine ⟨nonempty, fun text among => ?_⟩
  obtain ⟨candidate, listed, rfl, bucket⟩ := inside text among
  obtain ⟨record, there, chosen⟩ := List.mem_filterMap.mp listed
  obtain ⟨held, found, name, written⟩ := shown record there
  obtain ⟨endDate, timed⟩ := exists_instant_of_finds found
  rw [Finder.candidate?_eq, timed, written, Option.map_some, Option.getD_some,
    Option.some.injEq] at chosen
  subst chosen
  exact ⟨record.id, record.source, endDate, held, found, written, timed, bucket⟩

end Archiver

end Archivist
