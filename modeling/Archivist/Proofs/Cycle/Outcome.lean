import Archivist.Proofs.Cycle.Calm
import Archivist.Proofs.Cycle.Outage
import Archivist.Proofs.Cycle.Searches
import Archivist.Proofs.Dialogue.Rehearsal

set_option autoImplicit false

namespace Archivist

open Calendar (Instant)
open Json (Value)
open Rehearsal (World carryOn)

namespace Archiver

variable {archiver : Archiver} {cutoff : Instant} {start now : Holdings}

def dueCount (archiver : Archiver) (cutoff : Instant) (now : Holdings) : Nat :=
  ((now.documents archiver.finder.root.index).filter fun document =>
    archiver.finds cutoff document.2).length

theorem length_listing (archiver : Archiver) (cutoff : Instant) (now : Holdings) :
    (archiver.listing cutoff now).length = archiver.dueCount cutoff now :=
  archiver.finder.length_listing archiver.partitions.ids cutoff now

theorem Recoverable.length_listing_le {own : Partitions}
    (recoverable : archiver.Recoverable cutoff start now) (healthy : archiver.Healthy cutoff start)
    (covers : archiver.Covers own) :
    ((archiver.owning own).listing cutoff now).length ≤ archiver.dueCount cutoff start := by
  rw [← length_listing]
  refine listing_nodup.length_le_of_subset fun record member => ?_
  obtain ⟨here, held, found⟩ := (mem_listing record).mp member
  exact (mem_listing record).mpr ⟨here,
    recoverable.between.stays _ healthy.isLive_root _ _ held, finds_of_owning covers found⟩

theorem Recoverable.dueCount_le (recoverable : archiver.Recoverable cutoff start now)
    (healthy : archiver.Healthy cutoff start) :
    archiver.dueCount cutoff now ≤ archiver.dueCount cutoff start := by
  rw [← length_listing archiver cutoff now]
  exact recoverable.length_listing_le healthy fun _ => id

/-- The numbers of roots give their pages an order, as long as the store can be recovered. -/
theorem Healthy.mayCall_steady (healthy : archiver.Healthy cutoff start) {call : Call}
    (made : archiver.MayCall cutoff call) {site : Site Holdings}
    (safe : archiver.IsSafe cutoff start site) : site.store.breaksOff call = false := by
  have ranks := (healthy.between safe.recoverable.between).ranks
  exact Archiver.mayCall_steady archiver.finder.goesBy_rank.orders
    (fun id source held found => ranks.isRanked held found) made

theorem IsSafe.carryOn_cycle {world : World} {now : Instant}
    (safe : archiver.IsSafe cutoff start (world.site .job))
    (healthy : archiver.Healthy cutoff start) (begins : archiver.finder.cutoff now = some cutoff)
    (quiet : world.IsQuiet) (fuel : Nat)
    (enough : 2 * archiver.dueCount cutoff world.store.holdings + 2 ≤ fuel) :
    ∃ after : World, carryOn .job world (archiver.cycle fuel now) =
        (after, .finished (.ok (archiver.dueCount cutoff world.store.holdings))) ∧
      archiver.Archived cutoff start after.store.holdings := by
  rw [← length_listing] at enough ⊢
  have ensured := ensures_cycle_calm healthy now begins (world.site .job) safe fuel enough
  have keeps := ensures_cycle_trouble healthy Troubles.honest_calm now begins fuel
    (world.site .job) safe
  have steady := Backend.ensures_steady (makes_cycle begins fuel) keeps
    (fun call now made => healthy.mayCall_steady made) safe ensured
  obtain ⟨after, _, ended, _, rfl, archived⟩ := Rehearsal.carryOn_of_ensures quiet steady
  exact ⟨after, ended, archived⟩

/-- For every page size, a cycle in a quiet world archives everything that is due and nothing else,
and says how many roots that were. -/
theorem quiet_cycle_archives_what_is_due (archiver : Archiver) (now cutoff : Instant)
    (begins : archiver.finder.cutoff now = some cutoff) (world : World) (quiet : world.IsQuiet)
    (mindful : IsMindful (world.site .job))
    (healthy : archiver.Healthy cutoff world.store.holdings) (fuel : Nat)
    (enough : 2 * archiver.dueCount cutoff world.store.holdings + 2 ≤ fuel) :
    ∃ after : World, carryOn .job world (archiver.cycle fuel now) =
        (after, .finished (.ok (archiver.dueCount cutoff world.store.holdings))) ∧
      archiver.Archived cutoff world.store.holdings after.store.holdings := by
  have safe : archiver.IsSafe cutoff world.store.holdings (world.site .job) :=
    ⟨recoverable_refl archiver cutoff _, mindful⟩
  exact safe.carryOn_cycle healthy begins quiet fuel enough

/-- An archiver of one partition that takes roots one by one, to show what is meant. -/
def specimen : Archiver :=
  ⟨⟨[1]⟩, ⟨.standard, 3600, 0, .day, ⟨1, 5, 5, 5⟩⟩, Mover.specimen, 1⟩

def specimenWorld : World :=
  { World.begin ⟨1704200000, 0⟩ with store := ⟨Mover.specimenStart, [], []⟩ }

theorem specimen_begins :
    specimen.finder.cutoff specimenWorld.now = some ⟨1704196400, 0⟩ := by decide +kernel

theorem specimenWorld_quiet : specimenWorld.IsQuiet := ⟨nofun, nofun⟩

theorem specimen_root {id : String} {source : Value}
    (held : specimenWorld.store.holdings.document? specimen.finder.root.index id = some source) :
    id = "r" ∧ source.member? specimen.finder.root.idField = some (.nat 7) ∧
      source.textAt specimen.finder.root.linkField = some (Numeral.ofNat 7) ∧
        specimen.suffix? source = some "x" := by
  have only : specimenWorld.store.holdings.documents specimen.finder.root.index =
      [("r", Mover.specimenRoot)] := rfl
  rw [← Holdings.mem_documents_iff, only, List.mem_singleton, Prod.mk.injEq] at held
  obtain ⟨rfl, rfl⟩ := held
  exact ⟨rfl, rfl, by decide +kernel, by decide +kernel⟩

theorem specimen_healthy : specimen.Healthy ⟨1704196400, 0⟩ specimenWorld.store.holdings where
  sameRoot := rfl
  numbered _ _ held _ := by
    obtain ⟨_, numbered, linked, _⟩ := specimen_root held
    exact ⟨7, by decide, numbered, linked⟩
  distinct _ _ _ _ held also _ _ _ := (specimen_root held).1.trans (specimen_root also).1.symm
  listedOnce := by decide
  present := by decide +kernel
  dated _ _ held _ := ⟨"x", (specimen_root held).2.2.2⟩
  separates := by
    refine Mover.specimen_separates _ ?_
    intro suffix inUse
    obtain ⟨_, _, _, held, _, _, goes⟩ := inUse
    exact Option.some.inj (goes.symm.trans (specimen_root held).2.2.2)

/-- The only root of a world is archived. -/
theorem finished_root_is_archived :
    specimen.dueCount ⟨1704196400, 0⟩ specimenWorld.store.holdings = 1 ∧
      ∃ after : World, carryOn .job specimenWorld (specimen.cycle 4 specimenWorld.now) =
          (after, .finished (.ok (specimen.dueCount ⟨1704196400, 0⟩ specimenWorld.store.holdings))) ∧
        specimen.Archived ⟨1704196400, 0⟩ specimenWorld.store.holdings after.store.holdings :=
  ⟨by decide +kernel, quiet_cycle_archives_what_is_due specimen specimenWorld.now _ specimen_begins
    specimenWorld specimenWorld_quiet nofun specimen_healthy 4 (by decide +kernel)⟩

/-- However many cycles are caught up in an outage, the first one after it succeeds, and leaves the
store as a single cycle would have left it without the outage. -/
theorem quiet_cycle_makes_up_for_outages (archiver : Archiver) (troubles : Troubles)
    (honest : troubles.Honest) (now cutoff : Instant)
    (begins : archiver.finder.cutoff now = some cutoff) (first last : World)
    (quiet : first.IsQuiet) (settled : last.IsQuiet) (mindful : IsMindful (first.site .job))
    (healthy : archiver.Healthy cutoff first.store.holdings)
    (cycles : archiver.Cycles troubles now (first.site .job) (last.site .job)) (fuel : Nat)
    (enough : 2 * archiver.dueCount cutoff first.store.holdings + 2 ≤ fuel) :
    ∃ once again : World,
      carryOn .job first (archiver.cycle fuel now) =
        (once, .finished (.ok (archiver.dueCount cutoff first.store.holdings))) ∧
      carryOn .job last (archiver.cycle fuel now) =
        (again, .finished (.ok (archiver.dueCount cutoff last.store.holdings))) ∧
      again.store.holdings = once.store.holdings := by
  have begun : archiver.IsSafe cutoff first.store.holdings (first.site .job) :=
    ⟨recoverable_refl archiver cutoff _, mindful⟩
  have safe : archiver.IsSafe cutoff first.store.holdings (last.site .job) :=
    cycles.safe healthy honest begins mindful
  have fewer : archiver.dueCount cutoff last.store.holdings ≤
      archiver.dueCount cutoff first.store.holdings := safe.recoverable.dueCount_le healthy
  have still : 2 * archiver.dueCount cutoff last.store.holdings + 2 ≤ fuel := by omega
  obtain ⟨once, ended, archived⟩ := begun.carryOn_cycle healthy begins quiet fuel enough
  obtain ⟨again, finished, also⟩ := safe.carryOn_cycle healthy begins settled fuel still
  exact ⟨once, again, ended, finished, archived_unique also archived⟩

/-- The root is refused to be deleted when its event is already gone. -/
def specimenOutage : World :=
  { specimenWorld with
    store := specimenWorld.store.arm ⟨.deleteByQuery, .refusal, "operate-list-view_", 1⟩ }

/-- The next cycle takes the root where its event has gone. -/
theorem refused_deletion_is_made_up_for :
    ∃ last : World, specimen.Cycles .outage specimenWorld.now (specimenWorld.site .job)
        (last.site .job) ∧
      last.store.holdings.documents "events" = [] ∧
      specimen.dueCount ⟨1704196400, 0⟩ last.store.holdings = 1 ∧
      ∃ once again : World,
        carryOn .job specimenWorld (specimen.cycle 4 specimenWorld.now) =
          (once, .finished (.ok (specimen.dueCount ⟨1704196400, 0⟩ specimenWorld.store.holdings))) ∧
        carryOn .job last (specimen.cycle 4 specimenWorld.now) =
          (again, .finished (.ok (specimen.dueCount ⟨1704196400, 0⟩ last.store.holdings))) ∧
        again.store.holdings = once.store.holdings := by
  obtain ⟨result, came⟩ := Option.isSome_iff_exists.mp (show
    ((carryOn .job specimenOutage (specimen.cycle 4 specimenWorld.now)).2.result?).isSome = true by
      decide +kernel)
  have reached := Rehearsal.reaches_carryOn specimenOutage _ _ result nofun
    (Prod.ext rfl (Rehearsal.Progress.eq_finished came))
  have cycles : specimen.Cycles .outage specimenWorld.now (specimenWorld.site .job) _ :=
    .cycled .begun 4 _ _ reached
  refine ⟨_, cycles, ?_, ?_, ?_⟩
  · refine List.isEmpty_iff.mp ?_
    decide +kernel
  · decide +kernel
  · exact quiet_cycle_makes_up_for_outages specimen .outage Troubles.honest_outage specimenWorld.now
      ⟨1704196400, 0⟩ specimen_begins specimenWorld _ specimenWorld_quiet
      (by decide +kernel) nofun specimen_healthy cycles 4 (by decide +kernel)

end Archiver

end Archivist
