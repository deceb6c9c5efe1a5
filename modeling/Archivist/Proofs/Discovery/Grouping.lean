import Archivist.Archive.Discovery
import Archivist.Proofs.Calendar.Bucket
import Archivist.Proofs.Move.Warrant

set_option autoImplicit false

namespace Archivist

open Calendar (Date)

namespace Finder

variable {finder : Finder} {candidates part : List Candidate} {batches : List Batch} {batch : Batch}

theorem flatMap_ids_prepend (date : Date) (id : String) (batches : List Batch) :
    (prepend date id batches).flatMap Batch.ids = id :: batches.flatMap Batch.ids := by
  match batches with
  | [] => rfl
  | first :: rest =>
    simp only [prepend]
    split <;> rfl

theorem exists_group (finder : Finder) (candidates : List Candidate)
    (dated : ∀ candidate ∈ candidates,
      (finder.rollover.bucket candidate.endDate finder.offset).isSome = true) :
    ∃ batches, finder.group candidates = some batches := by
  induction candidates with
  | nil => exact ⟨[], rfl⟩
  | cons candidate rest ih =>
    obtain ⟨batches, grouped⟩ := ih fun other member => dated other (List.mem_cons_of_mem _ member)
    obtain ⟨date, bucket⟩ := Option.isSome_iff_exists.mp (dated candidate List.mem_cons_self)
    exact ⟨prepend date candidate.id batches, by simp only [group, bucket, grouped]⟩

theorem group_cons {candidate : Candidate} {rest : List Candidate}
    (grouped : finder.group (candidate :: rest) = some batches) :
    ∃ date others, finder.rollover.bucket candidate.endDate finder.offset = some date ∧
      finder.group rest = some others ∧ batches = prepend date candidate.id others := by
  simp only [group] at grouped
  split at grouped
  · rename_i date others bucket tail
    cases grouped
    exact ⟨date, others, bucket, tail, rfl⟩
  · cases grouped

theorem flatMap_ids_group (grouped : finder.group candidates = some batches) :
    batches.flatMap Batch.ids = candidates.map Candidate.id := by
  induction candidates generalizing batches with
  | nil =>
    cases grouped
    rfl
  | cons candidate rest ih =>
    obtain ⟨date, others, _, tail, rfl⟩ := group_cons grouped
    rw [flatMap_ids_prepend, ih tail, List.map_cons]

/-- One more item in front of what some batches are made of either joins the first batch or makes a
batch of its own. -/
theorem exists_parts_of_prepend {Item : Type} {made : Batch → List Item → Prop} {date : Date}
    {id : String} {item : Item} (alone : made ⟨date, [id]⟩ [item])
    (joins : ∀ batch part, batch.finishDate = date → made batch part →
      made ⟨date, id :: batch.ids⟩ (item :: part))
    {parts : List (List Item)} (built : List.Forall₂ made batches parts) :
    ∃ more, List.Forall₂ made (prepend date id batches) more ∧
      more.flatten = item :: parts.flatten := by
  cases built with
  | nil => exact ⟨[[item]], .cons alone .nil, rfl⟩
  | @cons batch part others rest first later =>
    simp only [prepend]
    split
    · rename_i same
      exact ⟨(item :: part) :: rest, .cons (same ▸ joins batch part same first) later, rfl⟩
    · exact ⟨[item] :: part :: rest, .cons alone (.cons first later), rfl⟩

structure Takes (finder : Finder) (batch : Batch) (part : List Candidate) : Prop where
  nonempty : batch.ids ≠ []
  ids : batch.ids = part.map Candidate.id
  dated : ∀ candidate ∈ part,
    finder.rollover.bucket candidate.endDate finder.offset = some batch.finishDate

theorem exists_takes_of_group (grouped : finder.group candidates = some batches) :
    ∃ parts, List.Forall₂ finder.Takes batches parts ∧ parts.flatten = candidates := by
  induction candidates generalizing batches with
  | nil =>
    cases grouped
    exact ⟨[], .nil, rfl⟩
  | cons candidate rest ih =>
    obtain ⟨date, others, bucket, tail, rfl⟩ := group_cons grouped
    obtain ⟨parts, takes, rfl⟩ := ih tail
    refine exists_parts_of_prepend ?alone ?joins takes
    case alone =>
      refine ⟨List.cons_ne_nil _ _, rfl, fun other member => ?_⟩
      cases List.mem_singleton.mp member
      exact bucket
    case joins =>
      intro batch part same taken
      refine ⟨List.cons_ne_nil _ _, congrArg (candidate.id :: ·) taken.ids, ?_⟩
      intro other member
      rcases List.mem_cons.mp member with rfl | before
      · exact bucket
      · exact same ▸ taken.dated other before

theorem bucket_of_group (grouped : finder.group candidates = some batches) :
    ∀ batch ∈ batches, batch.ids ≠ [] ∧ ∀ id ∈ batch.ids, ∃ candidate ∈ candidates,
      candidate.id = id ∧
        finder.rollover.bucket candidate.endDate finder.offset = some batch.finishDate := by
  obtain ⟨parts, takes, rfl⟩ := exists_takes_of_group grouped
  intro batch member
  obtain ⟨part, among, taken⟩ := Mover.exists_of_forall₂ takes batch member
  refine ⟨taken.nonempty, fun id listed => ?_⟩
  rw [taken.ids, List.mem_map] at listed
  obtain ⟨candidate, inside, same⟩ := listed
  exact ⟨candidate, List.mem_flatten.mpr ⟨part, among, inside⟩, same, taken.dated candidate inside⟩

theorem exists_bucket_of_group (grouped : finder.group candidates = some batches)
    (member : batch ∈ batches) : ∃ candidate ∈ candidates,
      finder.rollover.bucket candidate.endDate finder.offset = some batch.finishDate := by
  obtain ⟨nonempty, inside⟩ := bucket_of_group grouped batch member
  obtain ⟨id, among⟩ := List.exists_mem_of_ne_nil _ nonempty
  obtain ⟨candidate, listed, _, bucket⟩ := inside id among
  exact ⟨candidate, listed, bucket⟩

theorem dates_ascend_prepend {date : Date} (id : String) (valid : date.isValid = true)
    (valids : ∀ batch ∈ batches, batch.finishDate.isValid = true)
    (begins : ∀ batch ∈ batches, date.dayNumber ≤ batch.finishDate.dayNumber)
    (ascend : batches.Pairwise fun left right =>
      left.finishDate.dayNumber < right.finishDate.dayNumber) :
    (prepend date id batches).Pairwise fun left right =>
      left.finishDate.dayNumber < right.finishDate.dayNumber := by
  cases ascend with
  | nil => exact List.pairwise_singleton _ _
  | @cons first others above later =>
    simp only [prepend]
    split
    · rename_i same
      exact .cons (same ▸ above) later
    · rename_i apart
      have distinct : date.dayNumber ≠ first.finishDate.dayNumber := fun same =>
        apart (Date.dayNumber_inj valid (valids first List.mem_cons_self) same).symm
      have before := lt_of_le_of_ne (begins first List.mem_cons_self) distinct
      refine .cons (fun batch member => ?_) (.cons above later)
      rcases List.mem_cons.mp member with rfl | behind
      · exact before
      · exact before.trans (above batch behind)

theorem dates_ascend_group
    (ordered : candidates.Pairwise fun earlier later =>
      earlier.endDate.isAtMost later.endDate = true)
    (grouped : finder.group candidates = some batches) :
    batches.Pairwise fun left right => left.finishDate.dayNumber < right.finishDate.dayNumber := by
  induction ordered generalizing batches with
  | nil =>
    cases grouped
    exact .nil
  | @cons candidate rest first later ih =>
    obtain ⟨date, others, bucket, tail, rfl⟩ := group_cons grouped
    refine dates_ascend_prepend candidate.id (Calendar.Rollover.isValid_of_bucket bucket)
      (fun batch member => ?_) (fun batch member => ?_) (ih tail) <;>
      obtain ⟨other, listed, falls⟩ := exists_bucket_of_group tail member
    · exact Calendar.Rollover.isValid_of_bucket falls
    · exact Calendar.Rollover.bucket_mono
        (Calendar.Instant.seconds_le_of_isAtMost (first other listed)) bucket falls

theorem exists_position_of_takes {parts : List (List Candidate)}
    (takes : List.Forall₂ finder.Takes batches parts) (listed : part ∈ parts) :
    ∃ (position : Nat) (bounded : position < parts.length) (there : position < batches.length),
      parts[position] = part ∧ finder.Takes batches[position] part := by
  obtain ⟨position, bounded, rfl⟩ := List.mem_iff_getElem.mp listed
  have there : position < batches.length := takes.length_eq ▸ bounded
  exact ⟨position, bounded, there, rfl, takes.get there bounded⟩

theorem shares_iff {parts : List (List Candidate)}
    (takes : List.Forall₂ finder.Takes batches parts)
    (ascend : batches.Pairwise fun left right =>
      left.finishDate.dayNumber < right.finishDate.dayNumber) {first second : Candidate}
    (listed : first ∈ parts.flatten) (also : second ∈ parts.flatten) :
    (∃ part ∈ parts, first ∈ part ∧ second ∈ part) ↔
      finder.rollover.bucket first.endDate finder.offset =
        finder.rollover.bucket second.endDate finder.offset := by
  constructor
  · rintro ⟨part, among, inside, beside⟩
    obtain ⟨_, _, _, _, taken⟩ := exists_position_of_takes takes among
    rw [taken.dated first inside, taken.dated second beside]
  · intro same
    obtain ⟨part, among, inside⟩ := List.mem_flatten.mp listed
    obtain ⟨other, amongToo, insideToo⟩ := List.mem_flatten.mp also
    obtain ⟨position, _, there, rfl, taken⟩ := exists_position_of_takes takes among
    obtain ⟨place, _, thereToo, rfl, takenToo⟩ := exists_position_of_takes takes amongToo
    rw [taken.dated first inside, takenToo.dated second insideToo, Option.some.injEq] at same
    have apart := List.pairwise_iff_getElem.mp ascend
    rcases Nat.lt_trichotomy position place with before | rfl | after
    · exact absurd (congrArg Date.dayNumber same) (apart _ _ there thereToo before).ne
    · exact ⟨_, among, inside, insideToo⟩
    · exact absurd (congrArg Date.dayNumber same) (apart _ _ thereToo there after).ne'

/-- The candidates of a page in the order of their end dates are split by their buckets: the batches
hold their ids in order, without a loss or a repetition, their dates go up, and two candidates share
a batch exactly when they share a bucket. -/
theorem group_splits_by_bucket (finder : Finder) (near : finder.offset.natAbs < 86400)
    (candidates : List Candidate)
    (ordered : candidates.Pairwise fun earlier later =>
      earlier.endDate.isAtMost later.endDate = true)
    (written : ∀ candidate ∈ candidates,
      -1 ≤ candidate.endDate.year ∧ candidate.endDate.year ≤ 10000) :
    ∃ batches parts, finder.group candidates = some batches ∧
      List.Forall₂ finder.Takes batches parts ∧ parts.flatten = candidates ∧
      batches.flatMap Batch.ids = candidates.map Candidate.id ∧
      (batches.Pairwise fun left right =>
        left.finishDate.dayNumber < right.finishDate.dayNumber) ∧
      ∀ first ∈ candidates, ∀ second ∈ candidates,
        (∃ part ∈ parts, first ∈ part ∧ second ∈ part) ↔
          finder.rollover.bucket first.endDate finder.offset =
            finder.rollover.bucket second.endDate finder.offset := by
  obtain ⟨batches, grouped⟩ := finder.exists_group candidates fun candidate member =>
    Calendar.Rollover.isSome_bucket_of_year (written candidate member).1
      (written candidate member).2 finder.rollover near
  obtain ⟨parts, takes, whole⟩ := exists_takes_of_group grouped
  have ascend := dates_ascend_group ordered grouped
  refine ⟨batches, parts, grouped, takes, whole, flatMap_ids_group grouped, ascend, ?_⟩
  intro first listed second also
  rw [← whole] at listed also
  exact shares_iff takes ascend listed also

/-- A finder an hour east of universal time, with a batch for each day. -/
def easterly : Finder := ⟨.standard, 3600, 3600, .day, ⟨1, 5, 5, 5⟩⟩

/-- The last second of 2016 in the east, the leap second at the end of 2016 in universal time, and
the second after it. -/
def turnOfYear : List Candidate :=
  [⟨"1", ⟨1483225199, 0⟩⟩, ⟨"2", ⟨1483228799, 1000000000⟩⟩, ⟨"3", ⟨1483228800, 0⟩⟩]

/-- The leap second and the second after it are both in the new year, and so in one batch. -/
theorem leap_second_begins_the_year :
    easterly.group turnOfYear = some [⟨⟨2016, 12, 31⟩, ["1"]⟩, ⟨⟨2017, 1, 1⟩, ["2", "3"]⟩] ∧
      ∃ parts : List (List Candidate), parts.flatten = turnOfYear ∧
        (∃ part ∈ parts, ⟨"2", ⟨1483228799, 1000000000⟩⟩ ∈ part ∧ ⟨"3", ⟨1483228800, 0⟩⟩ ∈ part) ∧
        ¬ ∃ part ∈ parts,
          ⟨"1", ⟨1483225199, 0⟩⟩ ∈ part ∧ ⟨"2", ⟨1483228799, 1000000000⟩⟩ ∈ part := by
  obtain ⟨_, parts, _, _, whole, _, _, shares⟩ := group_splits_by_bucket easterly (by decide)
    turnOfYear (by decide +kernel) (by decide +kernel)
  refine ⟨by decide +kernel, parts, whole, ?_, ?_⟩
  · exact (shares _ (by decide) _ (by decide)).mpr (by decide +kernel)
  · exact (shares _ (by decide) _ (by decide)).not.mpr (by decide +kernel)

end Finder

end Archivist
