import Archivist.Archive.Cycle
import Archivist.Proofs.Dialogue.Backend

set_option autoImplicit false

namespace Archivist

open Calendar (Instant)

theorem Finder.begin_of_cutoff {finder : Finder} {now cutoff : Instant} (partitions : List Nat)
    (pageSize : Nat) (begins : finder.cutoff now = some cutoff) :
    finder.begin partitions pageSize now =
      some ⟨finder, partitions, max pageSize 1, cutoff, none, [], partitions.isEmpty⟩ := by
  rw [begin, begins, Option.map_some]

namespace Discovery

variable {discovery : Discovery}

theorem draw_batch {batch : Batch} {rest : Discovery}
    (drawn : discovery.draw = .batch batch rest) : ∃ others,
      discovery.pending = batch :: others ∧ rest = { discovery with pending := others } := by
  rw [draw] at drawn
  split at drawn
  · rename_i first others pending
    cases drawn
    exact ⟨others, pending, rfl⟩
  · split at drawn <;> cases drawn

theorem draw_finished (drawn : discovery.draw = .finished) :
    discovery.pending = [] ∧ discovery.exhausted = true := by
  rw [draw] at drawn
  split at drawn
  · cases drawn
  · rename_i pending
    split at drawn
    · rename_i spent
      exact ⟨pending, spent⟩
    · cases drawn

theorem draw_fetch (drawn : discovery.draw = .fetch) :
    discovery.pending = [] ∧ discovery.exhausted = false := by
  rw [draw] at drawn
  split at drawn
  · cases drawn
  · rename_i pending
    split at drawn
    · cases drawn
    · rename_i notSpent
      exact ⟨pending, Bool.eq_false_iff.mpr notSpent⟩

end Discovery

variable {Store : Type} {backend : Backend Store} {rests : Store → Prop}
  {always : Site Store → Prop} {excuses : Crash → Prop}

namespace Discovery

/-- What becomes of a search for batches with a page: its dates may be beyond the calendar. -/
def TakesIn (done : Discovery × Except ArchiveFailure Unit → Site Store → Prop)
    (excuses : Crash → Prop) (discovery : Discovery) (page : List Record) (after : Site Store) :
    Prop :=
  match discovery.absorb page with
  | some next => done (next, .ok ()) after
  | none => excuses .outsideCalendar

/-- A fetch ends as it should when every reply to its search is taken in so. An index that is missing
has an empty page. -/
theorem ensures_fetch {discovery : Discovery} {site : Site Store}
    {done : Discovery × Except ArchiveFailure Unit → Site Store → Prop}
    (searched : (backend.setting rests always excuses).Ensures (fun reply after =>
      match reply with
      | .ok page => TakesIn done excuses discovery page after
      | .error failure =>
        if failure.isMissing then TakesIn done excuses discovery [] after
        else done ({ discovery with exhausted := true }, .error (.discovery failure)) after)
      (Work.call discovery.finder.policy "candidate search" (.search discovery.search)) site) :
    (backend.setting rests always excuses).Ensures done discovery.fetch site := by
  have absorbed : ∀ page after, TakesIn done excuses discovery page after →
      (backend.setting rests always excuses).Ensures done
        (match discovery.absorb page with
        | some discovery => .finish (discovery, .ok ())
        | none => .crash .outsideCalendar) after := by
    intro page after takesIn
    rw [TakesIn] at takesIn
    split <;> rename_i outcome <;> rw [outcome] at takesIn <;> exact takesIn
  rw [fetch, Setting.ensures_bind]
  refine searched.mono ?_
  intro reply after reached
  rcases reply with failure | page
  · cases missing : failure.isMissing with
    | true =>
      simp only [missing, ↓reduceIte] at reached ⊢
      exact absorbed [] after reached
    | false =>
      simp only [missing, Bool.false_eq_true, ↓reduceIte] at reached ⊢
      exact reached
  · exact absorbed page after reached

end Discovery

namespace Cycle

theorem ensures_fail (failure : CycleFailure) (site : Site Store)
    (done : Outcome → Site Store → Prop) (invariant : always site)
    (reached : done (.error failure) site) :
    (backend.setting rests always excuses).Ensures done (fail failure) site := by
  rw [fail, Setting.ensures_do]
  refine Backend.ensures_enter _ site _ invariant ?_
  rw [Setting.ensures_do]
  refine Backend.ensures_count _ _ site _ invariant ?_
  rw [Setting.ensures_do]
  refine Backend.ensures_count _ _ site _ invariant ?_
  rw [Setting.ensures_do]
  refine Backend.ensures_count _ _ site _ invariant ?_
  rw [Setting.ensures_do]
  exact Backend.ensures_enter _ site _ invariant reached

theorem ensures_succeed (archived : Nat) (site : Site Store)
    (done : Outcome → Site Store → Prop) (invariant : always site)
    (reached : done (.ok archived) site) :
    (backend.setting rests always excuses).Ensures done (succeed archived) site := by
  rw [succeed, Setting.ensures_do]
  refine Backend.ensures_enter _ site _ invariant ?_
  rw [Setting.ensures_do]
  refine Backend.ensures_count _ _ site _ invariant ?_
  rw [Setting.ensures_do]
  refine Backend.ensures_count _ _ site _ invariant ?_
  rw [Setting.ensures_do]
  exact Backend.ensures_enter _ site _ invariant reached

def Leads (onward : Cycle → Site Store → Prop) (done : Outcome → Site Store → Prop)
    (turned : Cycle ⊕ Outcome) (after : Site Store) : Prop :=
  match turned with
  | .inl cycle => onward cycle after
  | .inr outcome => done outcome after

variable {mover : Mover} {cycle : Cycle} {site : Site Store}
  {onward : Cycle → Site Store → Prop} {done : Outcome → Site Store → Prop}

/-- A page was taken in, or the search for it failed and ends the cycle. -/
def Fetches (onward : Cycle → Site Store → Prop) (done : Outcome → Site Store → Prop)
    (always : Site Store → Prop) (cycle : Cycle)
    (fetched : Discovery × Except ArchiveFailure Unit) (after : Site Store) : Prop :=
  always after ∧
    match fetched.2 with
    | .ok _ => onward { cycle with discovery := fetched.1 } after
    | .error cause => done (.error ⟨"", 0, cycle.archived, cause⟩) after

def Moves (onward : Cycle → Site Store → Prop) (done : Outcome → Site Store → Prop)
    (always : Site Store → Prop) (excuses : Crash → Prop) (mover : Mover) (cycle : Cycle)
    (batch : Batch) (result : Except ArchiveFailure Nat) (after : Site Store) : Prop :=
  always after ∧
    match result with
    | .ok count => onward { cycle with archived := cycle.archived + count } after
    | .error cause =>
      match mover.namer.suffix batch.finishDate with
      | some finishDate => done (.error ⟨finishDate, batch.ids.length, cycle.archived, cause⟩) after
      | none => excuses .patternNeedsClock

theorem ensures_moveBatch (batch : Batch) (invariant : always site)
    (moved : (backend.setting rests always excuses).Ensures
      (Moves onward done always excuses mover cycle batch) (mover.move batch) site) :
    (backend.setting rests always excuses).Ensures (Leads onward done)
      (moveBatch mover batch cycle) site := by
  simp only [moveBatch, Setting.ensures_do]
  refine Backend.ensures_enter _ site _ invariant ?_
  refine moved.mono ?_
  intro result after reached
  obtain ⟨kept, outcome⟩ := reached
  rcases result with cause | count
  · simp only [Setting.ensures_do, Namer.suffixOrCrash]
    cases named : mover.namer.suffix batch.finishDate with
    | some finishDate =>
      simp only [named] at outcome
      exact ensures_fail _ after _ kept outcome
    | none =>
      simp only [named] at outcome
      exact outcome
  · exact outcome

theorem ensures_turn (invariant : always site)
    (finished : cycle.discovery.draw = .finished → done (.ok cycle.archived) site)
    (fetched : cycle.discovery.draw = .fetch → (backend.setting rests always excuses).Ensures
      (Fetches onward done always cycle) cycle.discovery.fetch site)
    (moved : ∀ batch others, cycle.discovery.pending = batch :: others →
      (backend.setting rests always excuses).Ensures
        (Moves onward done always excuses mover
          { cycle with discovery := { cycle.discovery with pending := others } } batch)
        (mover.move batch) site) :
    (backend.setting rests always excuses).Ensures (Leads onward done)
      (turn mover cycle) site := by
  rw [turn, Setting.ensures_do]
  refine Backend.ensures_enter _ site _ invariant ?_
  cases drawn : cycle.discovery.draw with
  | finished =>
    simp only [Setting.ensures_do]
    exact ensures_succeed _ site _ invariant (finished drawn)
  | fetch =>
    simp only [Setting.ensures_do]
    refine (fetched drawn).mono ?_
    intro outcome after reached
    obtain ⟨discovery, _ | _⟩ := outcome
    · simp only [Setting.ensures_do]
      exact ensures_fail _ after _ reached.1 reached.2
    · exact reached.2
  | batch batch rest =>
    obtain ⟨others, pending, rfl⟩ := Discovery.draw_batch drawn
    exact ensures_moveBatch batch invariant (moved batch others pending)

end Cycle

namespace Archiver

/-- A cycle ends as it should when every turn of it leads on or ends it so. An archiver without
partitions takes no turn. -/
theorem ensures_cycle {archiver : Archiver} {now : Instant} {fuel : Nat} {site : Site Store}
    {done : Cycle.Outcome → Site Store → Prop} (ready : Nat → Cycle → Site Store → Prop)
    (invariant : always site)
    (unowned : archiver.partitions.isEmpty = true → done (.ok 0) site)
    (untimely : archiver.finder.cutoff now = none → excuses .outsideCalendar)
    (begun : ∀ cutoff, archiver.finder.cutoff now = some cutoff →
      archiver.partitions.isEmpty = false → ready fuel
        ⟨⟨archiver.finder, archiver.partitions.ids, max archiver.batchSize 1, cutoff, none, [],
          false⟩, 0⟩ site)
    (spent : ∀ cycle after, ready 0 cycle after → excuses .exhausted)
    (turned : ∀ left cycle after, ready (left + 1) cycle after →
      (backend.setting rests always excuses).Ensures (Cycle.Leads (ready left) done)
        (Cycle.turn archiver.mover cycle) after) :
    (backend.setting rests always excuses).Ensures done (archiver.cycle fuel now) site := by
  rw [cycle, Setting.ensures_do]
  refine Backend.ensures_enter _ site _ invariant ?_
  split
  · rename_i owned
    simp only [Setting.ensures_do]
    refine Backend.ensures_count _ _ site _ invariant ?_
    exact Backend.ensures_enter _ site _ invariant (unowned owned)
  · rename_i owned
    rw [Bool.not_eq_true] at owned
    cases begins : archiver.finder.cutoff now with
    | none =>
      rw [Finder.begin, begins, Option.map_none]
      exact untimely begins
    | some cutoff =>
      have noPartitions : archiver.partitions.ids.isEmpty = false := owned
      rw [Finder.begin_of_cutoff _ _ begins, noPartitions]
      refine Setting.Ensures.unfold ready spent (fun left cycle after reached => ?_) fuel _ site
        (begun cutoff begins owned)
      refine (turned left cycle after reached).mono ?_
      intro outcome later leads
      rcases outcome with next | outcome <;> exact leads

end Archiver

end Archivist
