import Archivist.Proofs.Cycle.Outcome
import Archivist.Proofs.Scheduler.Rehearsal

set_option autoImplicit false

namespace Archivist

namespace Watch

/-- Once a loop was told to stop it starts no cycle any more, and it returns when it comes to act
next outside of one. A loop that is not enabled starts none at all. What it has counted is the sum
of what its cycles moved; when it returns, all that it started have ended and are in the counters,
on top of what others have added. -/
theorem stops_between_cycles (archiver : Archiver) (enabled : Bool) (pacing : Pacing)
    (now later : Watch) (before : Runs archiver (build enabled pacing) now)
    (since : Runs archiver now later) :
    (now.scheduler.cancelled = true → later.started = now.started) ∧
    (later.scheduler.cancelled = true → later.scheduler.stage.isIdle = true →
      ∀ time, (later.scheduler.poll time).stage = .returned) ∧
    (enabled = false → later.started = 0 ∧ later.scheduler.archived = 0) ∧
    later.scheduler.archived = (later.ended.map Cycle.moved).sum ∧
    (later.scheduler.stage = .returned → later.crash = none →
      later.underWay = none ∧ later.ended.length = later.started ∧
      later.desk.counters.cycles =
        Counters.wrap (later.others .cycles + later.ended.length) ∧
      later.desk.counters.cycleFailures = Counters.wrap
        (later.others .cycleFailures + later.ended.countP fun outcome => !outcome.isOk) ∧
      later.desk.counters.archivedInstances =
        Counters.wrap (later.others .archivedInstances + later.scheduler.archived)) := by
  have sound := before.sound (sound_build enabled pacing)
  have soundLater := since.sound sound
  refine ⟨fun cancelled => (since.started_eq sound cancelled).2,
    fun cancelled idle => Scheduler.poll_of_cancelled cancelled idle, ?disabled,
    soundLater.total, ?returned⟩
  case disabled =>
    intro disabled
    have same : later.scheduler.enabled = enabled :=
      since.enabled_eq.trans before.enabled_eq
    exact soundLater.archived_eq_zero (same.trans disabled)
  case returned =>
    intro returned whole
    obtain ⟨free, all, told⟩ := soundLater.settled returned whole
    obtain ⟨archived, cycles, failures⟩ := Counter.forall_isOfCycles.mp told
    rw [Cycle.sum_cycles] at cycles
    rw [Cycle.sum_failures] at failures
    rw [soundLater.total]
    exact ⟨free, all, cycles, failures, archived⟩

end Watch

namespace Rehearsal

open Watch (Runs build stops_between_cycles)

def specimenBuilt : World × Loop where
  fst := { Archiver.specimenWorld with injections := [⟨.reindex, "", 1, 3, .none⟩] }
  snd := ⟨Archiver.specimen, none, .build true ⟨0, 0, 0⟩, none, none⟩

def specimenCopying : World × Loop :=
  Loop.react patience { specimenBuilt.2 with scheduler := specimenBuilt.2.scheduler.start }
    specimenBuilt.1

def specimenStopped : World × Loop :=
  Loop.react patience { specimenCopying.2 with scheduler := specimenCopying.2.scheduler.cancel }
    { specimenCopying.1 with elapsed := 3 }

theorem specimen_copying : specimenCopying.2.underWay.isSome = true := by decide +kernel

theorem specimen_stopped : specimenStopped.2.scheduler.stage = .returned ∧
    specimenStopped.2.crash = none ∧ specimenStopped.2.scheduler.archived = 1 := by
  decide +kernel

theorem specimen_mirrors : specimenBuilt.2.Mirrors Archiver.specimen specimenBuilt.1
    (build true ⟨0, 0, 0⟩) :=
  ⟨rfl, rfl, rfl, rfl, nofun, fun _ => rfl⟩

/-- A loop that is told to stop inside of a cycle returns after it, with the root that was moved. -/
theorem cycle_under_way_is_counted : ∃ now later : Watch,
    Runs Archiver.specimen (build true ⟨0, 0, 0⟩) now ∧ Runs Archiver.specimen now later ∧
    now.scheduler.cancelled = true ∧ now.underWay.isSome = true ∧
    later.scheduler.stage = .returned ∧ later.crash = none ∧
    later.started = now.started ∧ later.ended.length = later.started ∧
    later.scheduler.archived = 1 ∧ later.desk.counters.archivedInstances =
      Counters.wrap (later.others .archivedInstances + 1) := by
  obtain ⟨copying, copies, awaits⟩ := (specimen_mirrors.undergo .start 0).react patience
  obtain ⟨stopped, stops, ended⟩ := (awaits.undergo .cancel 3).react patience
  have told := (copies.head (.undergoes _ .start)).tail (.undergoes copying .cancel)
  have busy : copying.underWay.isSome = true := by
    obtain ⟨paused, waits⟩ := Option.isSome_iff_exists.mp specimen_copying
    obtain ⟨work, underWay, _⟩ := awaits.paused paused waits
    rw [underWay]
    rfl
  obtain ⟨atEnd, whole, archived⟩ := specimen_stopped
  have returned : stopped.scheduler.stage = .returned := by rw [ended.scheduler]; exact atEnd
  have unbroken : stopped.crash = none := ended.crash.trans whole
  have moved : stopped.scheduler.archived = 1 := by rw [ended.scheduler]; exact archived
  obtain ⟨none, _, _, _, settled⟩ :=
    stops_between_cycles Archiver.specimen true ⟨0, 0, 0⟩ _ _ told stops
  obtain ⟨_, all, _, _, counted⟩ := settled returned unbroken
  rw [moved] at counted
  exact ⟨_, _, told, stops, rfl, busy, returned, unbroken, none rfl, all, moved, counted⟩

end Rehearsal

end Archivist
