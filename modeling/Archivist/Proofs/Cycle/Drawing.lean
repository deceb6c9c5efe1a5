import Archivist.Proofs.Cycle.Batches
import Archivist.Proofs.Cycle.Turn
import Archivist.Proofs.Store.Listing
import Archivist.Proofs.Store.Outage

set_option autoImplicit false

namespace Archivist

open Calendar (Instant)
open Json (Value)

namespace Backend

variable {troubles : Troubles} {rests : Holdings → Prop} {always : Site Holdings → Prop}
  {excuses : Crash → Prop}

theorem ensures_search (policy : RetryPolicy) (step : String) (request : Search)
    (site : Site Holdings) (done : Except StoreFailure (List Record) → Site Holdings → Prop)
    (restful : (outages troubles).Restful rests)
    (invariant : always site)
    (reached : ∀ reply : Except StoreFailure (List Record),
      (∀ page, reply = .ok page → (site.store.perform (.search request)).1 = .ok page) →
        done reply site) :
    ((outages troubles).setting rests always excuses).Ensures done
      (Work.call policy step (.search request)) site := by
  refine ensures_call policy step (.search request) (site = ·) done ?_ site rfl
  intro _ reply store equal served
  obtain rfl := equal
  have unchanged : store = site.store := by
    rcases outages_effect served with same | same
    · exact same
    · exact same.trans (Holdings.after_search _ request)
  subst unchanged
  refine ⟨invariant, reached _ fun page answered => ?_, fun passing =>
    ⟨restful _ _ _ _ served passing, rfl⟩⟩
  rcases served with ⟨rfl, _⟩ | ⟨report, _, rfl, _⟩
  · exact answered
  · cases report <;> cases answered

end Backend

namespace Archiver

variable {archiver : Archiver} {cutoff : Instant} {start : Holdings} {troubles : Troubles}

/-- A search for batches that holds batches of roots that were due at the start. -/
structure Draws (archiver : Archiver) (cutoff : Instant) (start : Holdings)
    (discovery : Discovery) : Prop where
  sameFinder : discovery.finder = archiver.finder
  samePartitions : discovery.partitions = archiver.partitions.ids
  sameCutoff : discovery.cutoff = cutoff
  pending : ∀ batch ∈ discovery.pending, archiver.Gathers cutoff start batch

theorem draws_begun (archiver : Archiver) (cutoff : Instant) (start : Holdings) (pageSize : Nat) :
    archiver.Draws cutoff start
      ⟨archiver.finder, archiver.partitions.ids, pageSize, cutoff, none, [], false⟩ :=
  ⟨rfl, rfl, rfl, by simp only [List.not_mem_nil, false_implies, implies_true]⟩

theorem Draws.absorb {discovery further : Discovery} {page : List Record}
    (draws : archiver.Draws cutoff start discovery)
    (shown : ∀ record ∈ page, archiver.Shows cutoff start record)
    (absorbed : discovery.absorb page = some further) :
    archiver.Draws cutoff start further := by
  rw [Discovery.absorb, Option.map_eq_some_iff] at absorbed
  obtain ⟨batches, grouped, rfl⟩ := absorbed
  rw [draws.sameFinder] at grouped
  refine ⟨draws.sameFinder, draws.samePartitions, draws.sameCutoff, fun batch member => ?_⟩
  rcases List.mem_append.mp member with before | new
  · exact draws.pending batch before
  · exact gathers_of_group shown grouped batch new

theorem Draws.tail {discovery : Discovery} {batch : Batch} {others : List Batch}
    (draws : archiver.Draws cutoff start discovery) (pending : discovery.pending = batch :: others) :
    archiver.Draws cutoff start { discovery with pending := others } :=
  ⟨draws.sameFinder, draws.samePartitions, draws.sameCutoff, fun other member =>
    draws.pending other (pending ▸ List.mem_cons_of_mem batch member)⟩

theorem Draws.search_index {discovery : Discovery} (draws : archiver.Draws cutoff start discovery) :
    discovery.search.index = archiver.finder.root.index := by
  rw [Discovery.search, draws.sameFinder]
  rfl

/-- All roots that are due now were due at the start, and have texts for their ids. -/
def ShowsDue (archiver : Archiver) (cutoff : Instant) (start now : Holdings) : Prop :=
  ∀ record : Record,
    now.document? archiver.finder.root.index record.id = some record.source →
      archiver.finds cutoff record.source = true → archiver.Shows cutoff start record

theorem Draws.shows_of_search {now : Holdings} {discovery : Discovery} {page : List Record}
    (draws : archiver.Draws cutoff start discovery)
    (showsDue : archiver.ShowsDue cutoff start now)
    (answered : (now.perform (.search discovery.search)).1 = .ok page) :
    ∀ record ∈ page, archiver.Shows cutoff start record := by
  intro record member
  obtain ⟨held, accepted⟩ := Holdings.mem_of_search answered record member
  rw [Discovery.search, draws.sameFinder, draws.samePartitions, draws.sameCutoff,
    Finder.accepts_pageSearch] at accepted
  rw [draws.search_index] at held
  exact showsDue record held accepted

theorem Draws.ensures_fetch {rests : Holdings → Prop} {always : Site Holdings → Prop}
    {excuses : Crash → Prop} {discovery : Discovery} {site : Site Holdings}
    (draws : archiver.Draws cutoff start discovery)
    (restful : (Backend.outages troubles).Restful rests) (invariant : always site)
    (showsDue : archiver.ShowsDue cutoff start site.store)
    (excused : excuses .outsideCalendar) :
    ((Backend.outages troubles).setting rests always excuses).Ensures (fun outcome after =>
      after = site ∧ (outcome.2 = .ok () → archiver.Draws cutoff start outcome.1))
      discovery.fetch site := by
  have takesIn : ∀ page, (∀ record ∈ page, archiver.Shows cutoff start record) →
      Discovery.TakesIn (fun outcome after =>
        after = site ∧ (outcome.2 = .ok () → archiver.Draws cutoff start outcome.1))
        excuses discovery page site := by
    intro page shown
    rw [Discovery.TakesIn]
    split
    · rename_i further absorbed
      exact ⟨rfl, fun _ => draws.absorb shown absorbed⟩
    · exact excused
  refine Discovery.ensures_fetch ?_
  refine Backend.ensures_search _ _ discovery.search site _ restful invariant ?_
  intro reply truthful
  cases reply with
  | ok page => exact takesIn page (draws.shows_of_search showsDue (truthful page rfl))
  | error failure =>
    dsimp only
    split
    · exact takesIn [] (by simp only [List.not_mem_nil, false_implies, implies_true])
    · exact ⟨rfl, nofun⟩

section Outage

variable {holds : Site Holdings → Prop}

theorem Draws.ensures_turn {cycle : Cycle} {site : Site Holdings}
    (draws : archiver.Draws cutoff start cycle.discovery) (kept : holds site)
    (showsDue : archiver.ShowsDue cutoff start site.store)
    (moves : ∀ batch suffix, archiver.Gathers cutoff start batch →
      archiver.mover.namer.suffix batch.finishDate = some suffix →
        ((Backend.outages troubles).setting (fun _ => True) holds fun _ => True).Ensures
          (fun _ after => holds after) (archiver.mover.moveTo suffix batch.ids) site) :
    ((Backend.outages troubles).setting (fun _ => True) holds fun _ => True).Ensures
      (Cycle.Leads (fun next after => archiver.Draws cutoff start next.discovery ∧ holds after)
        fun _ after => holds after)
      (Cycle.turn archiver.mover cycle) site := by
  refine Cycle.ensures_turn kept (fun _ => kept) (fun _ => ?fetched) ?moved
  case fetched =>
    refine (draws.ensures_fetch (fun _ _ _ _ _ _ => trivial) kept showsDue trivial).mono ?_
    intro fetched _ reached
    obtain ⟨rfl, further⟩ := reached
    obtain ⟨discovery, _ | _⟩ := fetched
    · exact ⟨kept, kept⟩
    · exact ⟨kept, further rfl, kept⟩
  case moved =>
    intro batch others pending
    have gathers := draws.pending batch (pending ▸ List.mem_cons_self)
    cases named : archiver.mover.namer.suffix batch.finishDate with
    | none =>
      rw [Mover.move_of_unnamed gathers.nonempty named]
      trivial
    | some suffix =>
      rw [Mover.move_of_named gathers.nonempty named]
      refine (moves batch suffix gathers named).mono ?_
      intro moved after still
      refine ⟨still, ?_⟩
      rcases moved with failure | count
      · simp only [named]
        exact still
      · exact ⟨draws.tail pending, still⟩

/-- Whatever fails, a cycle keeps what moves of roots that were due keep, wherever it is cut off. -/
theorem ensures_cycle_outages {now : Instant} {site : Site Holdings} (start : Holdings)
    (fuel : Nat) (kept : holds site)
    (showsDue : ∀ cutoff after, archiver.finder.cutoff now = some cutoff → holds after →
      archiver.ShowsDue cutoff start after.store)
    (moves : ∀ cutoff after batch suffix, archiver.finder.cutoff now = some cutoff → holds after →
      archiver.Gathers cutoff start batch →
        archiver.mover.namer.suffix batch.finishDate = some suffix →
          ((Backend.outages troubles).setting (fun _ => True) holds fun _ => True).Ensures
            (fun _ later => holds later) (archiver.mover.moveTo suffix batch.ids) after) :
    ((Backend.outages troubles).setting (fun _ => True) holds fun _ => True).Ensures
      (fun _ after => holds after) (archiver.cycle fuel now) site := by
  apply ensures_cycle (fun _ cycle after => ∃ cutoff, archiver.finder.cutoff now = some cutoff ∧
      archiver.Draws cutoff start cycle.discovery ∧ holds after)
    kept (fun _ => kept) (fun _ => trivial)
  case begun =>
    intro cutoff begins _
    exact ⟨cutoff, begins, draws_begun archiver cutoff start _, kept⟩
  case spent => exact fun _ _ _ => trivial
  case turned =>
    intro left cycle after ready
    obtain ⟨cutoff, begins, draws, still⟩ := ready
    refine (draws.ensures_turn still (showsDue cutoff after begins still)
      fun batch suffix => moves cutoff after batch suffix begins still).mono ?_
    intro turned later reached
    rcases turned with next | outcome
    · exact ⟨cutoff, begins, reached⟩
    · exact reached

end Outage

end Archiver

end Archivist
