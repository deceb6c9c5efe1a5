import Archivist.Proofs.Discovery.Ranks

set_option autoImplicit false

namespace Archivist

open Calendar (Instant)
open Json (Value)

namespace Archiver

variable (archiver : Archiver) (cutoff : Instant) (now : Holdings)

/-- All roots that are due, in the order of their ranks. -/
def listing : List Record :=
  (archiver.finder.pageSearch archiver.partitions.ids cutoff 0 none).listing
    (Holdings.records archiver.finder.root.index (now.documents archiver.finder.root.index))

def idText (record : Record) : String :=
  (record.source.textAt archiver.finder.root.idField).getD record.id

def rank (record : Record) : Rank :=
  Rank.of ((record.source.instantAt archiver.finder.root.endDateField).getD ⟨0, 0⟩)
    (((record.source.member? archiver.finder.root.idField).bind Value.nat?).getD 0)

variable {archiver cutoff now}

theorem mem_listing (record : Record) :
    record ∈ archiver.listing cutoff now ↔ record.index = archiver.finder.root.index ∧
      now.document? archiver.finder.root.index record.id = some record.source ∧
      archiver.finds cutoff record.source = true :=
  Finder.mem_listing record

theorem listing_nodup : (archiver.listing cutoff now).Nodup :=
  Finder.listing_nodup

namespace Healthy

variable (healthy : archiver.Healthy cutoff now)
include healthy

theorem ranks : archiver.finder.Ranks archiver.partitions.ids cutoff now where
  numbered id source held found := by
    obtain ⟨number, small, numbered, _⟩ := healthy.numbered id source held (isRoot_of_finds found)
    exact ⟨number, small, numbered⟩
  distinct id other source another held kept found listed _ same :=
    healthy.distinct id other source another held kept (isRoot_of_finds found)
      (isRoot_of_finds listed) same

theorem listing_sorted : (archiver.listing cutoff now).Pairwise fun left right =>
    archiver.rank left < archiver.rank right :=
  healthy.ranks.listing_sorted

theorem idText_eq {record : Record} (member : record ∈ archiver.listing cutoff now) :
    record.source.textAt archiver.finder.root.idField = some (archiver.idText record) ∧
      record.source.textAt archiver.finder.root.linkField = some (archiver.idText record) := by
  obtain ⟨_, held, found⟩ := (mem_listing record).mp member
  obtain ⟨_, _, _, written, linked⟩ := healthy.exists_text held (isRoot_of_finds found)
  simp only [idText, written, linked, Option.getD_some, and_self]

theorem eq_of_idText {record other : Record} (member : record ∈ archiver.listing cutoff now)
    (also : other ∈ archiver.listing cutoff now)
    (same : archiver.idText record = archiver.idText other) : record = other := by
  obtain ⟨here, held, found⟩ := (mem_listing record).mp member
  obtain ⟨there, kept, listed⟩ := (mem_listing other).mp also
  have written := (healthy.idText_eq member).1
  rw [same] at written
  obtain ⟨ids, sources⟩ := healthy.eq_of_text held kept (isRoot_of_finds found)
    (isRoot_of_finds listed) written (healthy.idText_eq also).1
  obtain ⟨id, index, source⟩ := record
  obtain ⟨otherId, otherIndex, otherSource⟩ := other
  cases ids
  cases sources
  cases here.trans there.symm
  rfl

theorem idTexts_nodup : ((archiver.listing cutoff now).map archiver.idText).Nodup :=
  List.Nodup.map_on (fun _ member _ also => healthy.eq_of_idText member also) listing_nodup

end Healthy

end Archiver

end Archivist
