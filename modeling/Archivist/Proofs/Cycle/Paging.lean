import Archivist.Proofs.Cycle.Drawing
import Archivist.Proofs.Cycle.Listing

set_option autoImplicit false

namespace Archivist

open Calendar (Instant)
open Json (Value)

namespace Archiver

variable (archiver : Archiver) (cutoff : Instant) (now : Holdings)

/-- The roots that are due and come after a cursor. -/
def unseen (cursor : Option (List Value)) : List Record :=
  match cursor with
  | some values => (archiver.listing cutoff now).filter fun record => isAfter record.source
    (archiver.finder.pageSearch archiver.partitions.ids cutoff 0 none).sort values
  | none => archiver.listing cutoff now

def nextPage (discovery : Discovery) : List Record :=
  (archiver.unseen cutoff now discovery.cursor).take discovery.pageSize

/-- A bound on the turns before nothing is left to do. -/
def turns (discovery : Discovery) : Nat :=
  discovery.pending.length +
    if discovery.exhausted then 0
    else 2 * (archiver.unseen cutoff now discovery.cursor).length + 1

/-- A search for batches that passes over none of the roots that are due, when some roots have been
moved. -/
structure Seeks (discovery : Discovery) (moved : List String) : Prop where
  waits : ∀ record ∈ archiver.listing cutoff now,
    archiver.idText record ∈ discovery.pending.flatMap Batch.ids ∨
      record ∈ archiver.unseen cutoff now discovery.cursor
  gone : ∀ record ∈ archiver.listing cutoff now, archiver.idText record ∉ moved
  once : (moved ++ discovery.pending.flatMap Batch.ids).Nodup
  spent : discovery.exhausted = true → archiver.unseen cutoff now discovery.cursor = []
  sized : 1 ≤ discovery.pageSize

variable {archiver cutoff now} {discovery next : Discovery} {moved : List String}
  {start after : Holdings}

theorem unseen_eq (cursor : Option (List Value)) : archiver.unseen cutoff now cursor =
    archiver.finder.unseen archiver.partitions.ids cutoff now cursor := by
  cases cursor <;> rfl

theorem mem_listing_of_mem_unseen {cursor : Option (List Value)} {record : Record}
    (member : record ∈ archiver.unseen cutoff now cursor) :
    record ∈ archiver.listing cutoff now := by
  rw [unseen_eq] at member
  exact Finder.mem_listing_of_mem_unseen member

theorem mem_unseen_of_mem_listing {cursor : Option (List Value)} {record : Record}
    (member : record ∈ archiver.unseen cutoff now cursor)
    (listed : record ∈ archiver.listing cutoff after) :
    record ∈ archiver.unseen cutoff after cursor := by
  cases cursor with
  | none => exact listed
  | some values => exact List.mem_filter.mpr ⟨listed, (List.mem_filter.mp member).2⟩

theorem unseen_eq_listing {cursor : Option (List Value)}
    (all : ∀ record ∈ archiver.listing cutoff now, record ∈ archiver.unseen cutoff now cursor) :
    archiver.unseen cutoff now cursor = archiver.listing cutoff now := by
  cases cursor with
  | none => rfl
  | some values =>
    exact List.filter_eq_self.mpr fun record member => (List.mem_filter.mp (all record member)).2

theorem mem_listing_of_mem_nextPage {record : Record}
    (member : record ∈ archiver.nextPage cutoff now discovery) :
    record ∈ archiver.listing cutoff now :=
  mem_listing_of_mem_unseen (List.mem_of_mem_take member)

theorem Draws.nextPage_eq (draws : archiver.Draws cutoff start discovery) (now : Holdings) :
    archiver.nextPage cutoff now discovery = discovery.page now := by
  rw [nextPage, unseen_eq, Discovery.page, draws.sameFinder, draws.samePartitions,
    draws.sameCutoff]

theorem Draws.answer_eq (draws : archiver.Draws cutoff start discovery) (now : Holdings) :
    (now.perform (.search discovery.search)).1 =
        .ok (archiver.nextPage cutoff now discovery) ∨
      (∃ failure, (now.perform (.search discovery.search)).1 = .error failure ∧
        failure.isMissing = true) ∧ archiver.nextPage cutoff now discovery = [] := by
  rw [draws.nextPage_eq]
  exact discovery.answer_eq now

theorem Healthy.exists_absorb (healthy : archiver.Healthy cutoff now)
    (draws : archiver.Draws cutoff start discovery) :
    ∃ next, discovery.absorb (archiver.nextPage cutoff now discovery) = some next := by
  obtain ⟨batches, grouped⟩ := archiver.finder.exists_group
    ((archiver.nextPage cutoff now discovery).filterMap archiver.finder.candidate?) (by
      intro candidate member
      obtain ⟨record, shown, chosen⟩ := List.mem_filterMap.mp member
      obtain ⟨_, held, found⟩ := (mem_listing record).mp (mem_listing_of_mem_nextPage shown)
      obtain ⟨suffix, named⟩ := healthy.dated record.id record.source held found
      obtain ⟨endDate, timed⟩ := exists_instant_of_finds found
      rw [Finder.candidate?_eq, timed, Option.map_some, Option.some.injEq] at chosen
      rw [suffix?, timed, Option.bind_some, Option.bind_eq_some_iff] at named
      obtain ⟨date, bucket, _⟩ := named
      rw [← chosen, bucket]
      rfl)
  simp only [Discovery.absorb, draws.sameFinder, grouped, Option.map_some]
  exact ⟨_, rfl⟩

theorem candidate_ids {page : List Record}
    (due : ∀ record ∈ page, record ∈ archiver.listing cutoff now) :
    (page.filterMap archiver.finder.candidate?).map Candidate.id = page.map archiver.idText := by
  induction page with
  | nil => rfl
  | cons record rest ih =>
    obtain ⟨_, _, found⟩ := (mem_listing record).mp (due record List.mem_cons_self)
    obtain ⟨endDate, timed⟩ := exists_instant_of_finds found
    rw [List.filterMap_cons_some (Finder.candidate?_of_timed timed), List.map_cons, List.map_cons,
      ih fun other member => due other (List.mem_cons_of_mem record member)]
    rfl

theorem Draws.ids_of_absorb (draws : archiver.Draws cutoff start discovery)
    (pending : discovery.pending = [])
    (absorbed : discovery.absorb (archiver.nextPage cutoff now discovery) = some next) :
    next.pending.flatMap Batch.ids =
      (archiver.nextPage cutoff now discovery).map archiver.idText := by
  rw [Discovery.absorb, Option.map_eq_some_iff] at absorbed
  obtain ⟨batches, grouped, rfl⟩ := absorbed
  simp only [pending, List.nil_append]
  rw [Finder.flatMap_ids_group grouped, draws.sameFinder]
  exact candidate_ids fun _ => mem_listing_of_mem_nextPage

theorem Seeks.unseen_eq_listing (seeks : archiver.Seeks cutoff now discovery moved)
    (pending : discovery.pending = []) :
    archiver.unseen cutoff now discovery.cursor = archiver.listing cutoff now := by
  refine Archiver.unseen_eq_listing fun record member => ?_
  refine (seeks.waits record member).resolve_left ?_
  rw [pending]
  exact List.not_mem_nil

/-- After a page its last root is the cursor, and what comes after it is not seen yet. -/
theorem Seeks.unseen_of_absorb (seeks : archiver.Seeks cutoff now discovery moved)
    (healthy : archiver.Healthy cutoff now) (draws : archiver.Draws cutoff start discovery)
    (pending : discovery.pending = [])
    (absorbed : discovery.absorb (archiver.nextPage cutoff now discovery) = some next) :
    archiver.unseen cutoff now next.cursor =
      (archiver.unseen cutoff now discovery.cursor).drop discovery.pageSize := by
  rw [Discovery.absorb, Option.map_eq_some_iff] at absorbed
  obtain ⟨batches, _, rfl⟩ := absorbed
  have whole := List.take_append_drop discovery.pageSize
    (archiver.unseen cutoff now discovery.cursor)
  simp only
  -- An empty page leaves the cursor where it was.
  rcases List.eq_nil_or_concat (archiver.nextPage cutoff now discovery) with
    nothing | ⟨front, last, page⟩
  · have empty : archiver.unseen cutoff now discovery.cursor = [] := by
      rcases List.take_eq_nil_iff.mp nothing with zero | empty
      · have sized := seeks.sized
        omega
      · exact empty
    simp only [nothing, List.getLast?_nil, empty, List.drop_nil]
  · rw [List.concat_eq_append] at page
    have listed : archiver.listing cutoff now = front ++ last ::
        (archiver.unseen cutoff now discovery.cursor).drop discovery.pageSize := by
      rw [← seeks.unseen_eq_listing pending, ← List.singleton_append, ← List.append_assoc, ← page]
      exact whole.symm
    simp only [page, List.getLast?_concat, draws.sameFinder]
    have lastListed : last ∈ archiver.listing cutoff now := by
      rw [listed]
      exact List.mem_append_right front List.mem_cons_self
    have shown : archiver.unseen cutoff now (some (archiver.finder.cursorOf last)) =
        (archiver.listing cutoff now).filter fun record =>
          decide (archiver.rank last < archiver.rank record) := by
      rw [unseen_eq]
      exact archiver.finder.goesBy_rank.unseen_after (fun _ => healthy.ranks.hasRank) last
        (healthy.ranks.hasRank lastListed)
    rw [shown, listed]
    exact filter_above archiver.rank front last _ (listed ▸ healthy.listing_sorted)

/-- Taking in a page passes over nothing: its roots wait, and those after it are unseen. -/
theorem Seeks.absorb (seeks : archiver.Seeks cutoff now discovery moved)
    (healthy : archiver.Healthy cutoff now) (draws : archiver.Draws cutoff start discovery)
    (pending : discovery.pending = [])
    (absorbed : discovery.absorb (archiver.nextPage cutoff now discovery) = some next) :
    archiver.Seeks cutoff now next moved := by
  have all := seeks.unseen_eq_listing pending
  have ids := draws.ids_of_absorb pending absorbed
  have rest := seeks.unseen_of_absorb healthy draws pending absorbed
  obtain ⟨sized, exhausted⟩ := Discovery.exhausted_of_absorb absorbed
  constructor
  case waits =>
    intro record member
    rw [ids, rest]
    rw [← all, ← List.take_append_drop discovery.pageSize
      (archiver.unseen cutoff now discovery.cursor)] at member
    exact (List.mem_append.mp member).imp_left List.mem_map_of_mem
  case gone => exact seeks.gone
  case once =>
    have before := seeks.once
    rw [pending, List.flatMap_nil, List.append_nil] at before
    rw [ids]
    refine List.nodup_append.mpr ⟨before, ?_, ?_⟩
    · rw [nextPage, all]
      exact healthy.idTexts_nodup.sublist ((List.take_sublist _ _).map _)
    · intro text was other shown same
      obtain ⟨record, member, rfl⟩ := List.mem_map.mp shown
      exact seeks.gone record (mem_listing_of_mem_nextPage member) (same ▸ was)
  case spent =>
    intro spent
    rw [rest, List.drop_eq_nil_iff]
    rw [exhausted, Bool.or_eq_true, decide_eq_true_eq, nextPage, List.length_take] at spent
    rcases spent with before | short
    · rw [seeks.spent before]
      exact Nat.zero_le _
    · omega
  case sized => exact sized ▸ seeks.sized

/-- Each batch takes a root of the page at least, so a page costs fewer turns than it saves. -/
theorem Seeks.turns_absorb (seeks : archiver.Seeks cutoff now discovery moved)
    (healthy : archiver.Healthy cutoff now) (draws : archiver.Draws cutoff start discovery)
    (drawn : discovery.draw = .fetch)
    (absorbed : discovery.absorb (archiver.nextPage cutoff now discovery) = some next) :
    archiver.turns cutoff now next < archiver.turns cutoff now discovery := by
  obtain ⟨pending, notSpent⟩ := Discovery.draw_fetch drawn
  have batches := Discovery.length_pending_absorb pending absorbed
  have rest := congrArg List.length (seeks.unseen_of_absorb healthy draws pending absorbed)
  obtain ⟨_, spent⟩ := Discovery.exhausted_of_absorb absorbed
  have sized := seeks.sized
  rw [List.length_drop] at rest
  simp only [nextPage, List.length_take] at batches spent
  simp only [turns, pending, notSpent, spent, rest, List.length_nil, Bool.false_eq_true, ↓reduceIte,
    Bool.false_or, decide_eq_true_eq]
  split <;> omega

theorem Seeks.fewer (seeks : archiver.Seeks cutoff now discovery moved)
    (fewer : ∀ record ∈ archiver.listing cutoff after, record ∈ archiver.listing cutoff now) :
    archiver.Seeks cutoff after discovery moved where
  waits record member := (seeks.waits record (fewer record member)).imp_right fun unseen =>
    mem_unseen_of_mem_listing unseen member
  gone record member := seeks.gone record (fewer record member)
  once := seeks.once
  spent exhausted := by
    refine List.eq_nil_iff_forall_not_mem.mpr fun record member => ?_
    have listed := mem_listing_of_mem_unseen member
    have before := mem_unseen_of_mem_listing member (fewer record listed)
    rw [seeks.spent exhausted] at before
    cases before
  sized := seeks.sized

theorem turns_le_of_fewer (discovery : Discovery)
    (fewer : ∀ record ∈ archiver.listing cutoff after, record ∈ archiver.listing cutoff now) :
    archiver.turns cutoff after discovery ≤ archiver.turns cutoff now discovery := by
  have once : (archiver.unseen cutoff after discovery.cursor).Nodup := by
    cases discovery.cursor with
    | none => exact listing_nodup
    | some values => exact listing_nodup.filter _
  have bound := once.length_le_of_subset fun record member =>
    mem_unseen_of_mem_listing member (fewer record (mem_listing_of_mem_unseen member))
  simp only [turns]
  split <;> omega

theorem Seeks.move (seeks : archiver.Seeks cutoff now discovery moved) {batch : Batch}
    {others : List Batch} (pending : discovery.pending = batch :: others)
    (gone : ∀ record ∈ archiver.listing cutoff now, archiver.idText record ∉ batch.ids) :
    archiver.Seeks cutoff now { discovery with pending := others } (moved ++ batch.ids) where
  waits record member := by
    refine (seeks.waits record member).imp_left fun waits => ?_
    rw [pending, List.flatMap_cons] at waits
    exact (List.mem_append.mp waits).resolve_left (gone record member)
  gone record member among :=
    (List.mem_append.mp among).elim (seeks.gone record member) (gone record member)
  once := by
    have once := seeks.once
    rwa [pending, List.flatMap_cons, ← List.append_assoc] at once
  spent := seeks.spent
  sized := seeks.sized

/-- When no batch waits and no page is left, nothing is due any more. -/
theorem Seeks.listing_of_finished (seeks : archiver.Seeks cutoff now discovery moved)
    (drawn : discovery.draw = .finished) : archiver.listing cutoff now = [] := by
  obtain ⟨pending, exhausted⟩ := Discovery.draw_finished drawn
  rw [← seeks.unseen_eq_listing pending, seeks.spent exhausted]

end Archiver

end Archivist
