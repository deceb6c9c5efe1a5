import Archivist.Archive.Mover

set_option autoImplicit false

namespace Archivist

open Calendar (Instant)

structure Archiver where
  partitions : Partitions
  finder : Finder
  mover : Mover
  batchSize : Nat
deriving Repr, DecidableEq

/-- A cycle between two turns. -/
structure Cycle where
  discovery : Discovery
  archived : Nat

namespace Cycle

abbrev Outcome := Except CycleFailure Nat

def fail (failure : CycleFailure) : Work Outcome := do
  Work.enter .failed
  Work.count .archivedInstances failure.archivedBefore
  Work.count .cycles 1
  Work.count .cycleFailures 1
  Work.enter .idle
  return .error failure

/-- Books a cycle that found no more batches. -/
def succeed (archived : Nat) : Work Outcome := do
  Work.enter .success
  Work.count .archivedInstances archived
  Work.count .cycles 1
  Work.enter .idle
  return .ok archived

def moveBatch (mover : Mover) (batch : Batch) (cycle : Cycle) : Work (Cycle ⊕ Outcome) := do
  Work.enter .moving
  match ← mover.move batch with
  | .ok count => return .inl { cycle with archived := cycle.archived + count }
  | .error cause =>
    let finishDate ← mover.namer.suffixOrCrash batch.finishDate
    let outcome ← fail ⟨finishDate, batch.ids.length, cycle.archived, cause⟩
    return .inr outcome

def turn (mover : Mover) (cycle : Cycle) : Work (Cycle ⊕ Outcome) := do
  Work.enter .fetching
  match cycle.discovery.draw with
  | .batch batch rest => moveBatch mover batch { cycle with discovery := rest }
  | .finished =>
    let outcome ← succeed cycle.archived
    return .inr outcome
  | .fetch =>
    match ← cycle.discovery.fetch with
    | (discovery, .ok ()) => return .inl { cycle with discovery := discovery }
    | (_, .error cause) =>
      let outcome ← fail ⟨"", 0, cycle.archived, cause⟩
      return .inr outcome

end Cycle

namespace Archiver

/-- One cycle that begins at an instant, in at most as many turns as the fuel allows. An archiver
that owns no partitions has nothing to look for. -/
def cycle (archiver : Archiver) (fuel : Nat) (now : Instant) : Work Cycle.Outcome := do
  Work.enter .fetching
  if archiver.partitions.isEmpty then
    Work.count .cycles 1
    Work.enter .idle
    return .ok 0
  else
    match archiver.finder.begin archiver.partitions.ids archiver.batchSize now with
    | none => .crash .outsideCalendar
    | some discovery => Dialogue.unfold (Cycle.turn archiver.mover) fuel ⟨discovery, 0⟩

end Archiver

end Archivist
