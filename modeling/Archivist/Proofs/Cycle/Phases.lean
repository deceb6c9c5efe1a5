import Archivist.Proofs.Cycle.Course
import Archivist.Proofs.Cycle.Outcome

set_option autoImplicit false

namespace Archivist

open Calendar (Instant)
open Logbook (service)

namespace Discovery

theorem asks_next (fuel : Nat) (discovery : Discovery) :
    (Work.within discovery.finder.Seeks).Ensures
      (fun found _ => found.1.finder = discovery.finder) (discovery.next fuel) () := by
  refine Setting.Ensures.unfold (fun _ next _ => next.finder = discovery.finder)
    (fun _ _ _ => trivial) ?_ fuel discovery () rfl
  intro left next state same
  have asks := next.asks_turn_live
  rw [same] at asks
  refine asks.mono ?_
  intro turned after kept
  rcases turned with onward | found <;> exact kept

theorem Brings.extended {discovery rest : Discovery} {log after : Logbook}
    {result : Except ArchiveFailure (Option Batch)}
    (brings : discovery.Brings log rest result after) :
    rest.finder = discovery.finder ∧ log.Extends discovery.finder.Seeks after := by
  obtain ⟨fuel, reached⟩ := brings
  have extended := Logbook.extends_of_reaches (discovery.asks_next fuel) reached
  exact extended

end Discovery

namespace Logbook

def closing : Cycle.Outcome → Phase
  | .ok _ => .success
  | .error _ => .failed

theorem phases_conclude {log : Logbook} {outcome : Cycle.Outcome}
    (under : log.phase ≠ closing outcome) :
    (log.conclude outcome).phases = log.phases ++ [closing outcome, .idle] := by
  cases outcome with
  | ok archived =>
    have closed : (((log.enter .success).count .archivedInstances archived).count .cycles 1).phase ≠
        .idle := by
      rw [phase_count, phase_count, phase_enter]
      decide
    have entered : (log.enter .success).phases = log.phases ++ [.success] := log.phases_enter under
    rw [conclude, phases_enter _ closed, phases_count, phases_count, entered, List.append_assoc]
    rfl
  | error failure =>
    have closed : ((((log.enter .failed).count .archivedInstances failure.archivedBefore).count
        .cycles 1).count .cycleFailures 1).phase ≠ .idle := by
      rw [phase_count, phase_count, phase_count, phase_enter]
      decide
    have entered : (log.enter .failed).phases = log.phases ++ [.failed] := log.phases_enter under
    rw [conclude, phases_enter _ closed, phases_count, phases_count, phases_count, entered,
      List.append_assoc]
    rfl

end Logbook

namespace Cycle

def Ending.phases : Ending → List Phase
  | .finished => [.success, .idle]
  | .unfetched _ => [.failed, .idle]
  | .unmoved .. => [.moving, .failed, .idle]

variable {mover : Mover} {discovery rest : Discovery} {log begun after : Logbook}
  {batches : List Batch} {ending : Ending}

theorem phases_of_move {batch : Batch} {found moved : Logbook}
    {result : Except ArchiveFailure Nat} (brings : discovery.Brings log rest (.ok (some batch)) found)
    (fetching : log.phase = .fetching)
    (move : (mover.move batch).Reaches service (found.enter .moving) moved (.finish result)) :
    moved.phase = .moving ∧ moved.phases = log.phases ++ [.moving] := by
  have searched := brings.extended.2
  have extended := (Mover.extends_of_move move).2
  have new : found.phase ≠ .moving := by
    rw [searched.phase, fetching]
    nofun
  refine ⟨extended.phase.trans (found.phase_enter .moving), ?_⟩
  rw [extended.phases, found.phases_enter new, searched.phases]

theorem Archives.phases (archives : Archives mover discovery log batches rest begun)
    (fetching : log.phase = .fetching) : begun.phase = .fetching ∧
      begun.phases = log.phases ++ batches.flatMap fun _ => [.moving, .fetching] := by
  induction archives with
  | nothing => exact ⟨fetching, (List.append_nil _).symm⟩
  | @further discovery rest last log found moved final batch batches count brings move onward ih =>
    obtain ⟨moving, phases⟩ := phases_of_move brings fetching move
    have new : moved.phase ≠ .fetching := by
      rw [moving]
      nofun
    obtain ⟨again, onward⟩ := ih (moved.phase_enter .fetching)
    refine ⟨again, ?_⟩
    rw [onward, moved.phases_enter new, phases, List.flatMap_cons, List.append_assoc,
      List.append_assoc]
    rfl

theorem Stops.phases {archived : Nat} (stops : Stops mover discovery log ending after)
    (fetching : log.phase = .fetching) :
    (after.conclude (ending.outcome archived)).phases = log.phases ++ ending.phases := by
  have under : ∀ {after : Logbook} {finder : Finder} (outcome : Outcome),
      log.Extends finder.Seeks after → after.phase ≠ Logbook.closing outcome := by
    intro after finder outcome extended
    rw [extended.phase, fetching]
    cases outcome <;> nofun
  cases stops with
  | finished brings =>
    rw [Logbook.phases_conclude (under _ brings.extended.2), brings.extended.2.phases]
    rfl
  | unfetched brings =>
    rw [Logbook.phases_conclude (under _ brings.extended.2), brings.extended.2.phases]
    rfl
  | unmoved brings _ refused =>
    obtain ⟨moving, phases⟩ := phases_of_move brings fetching refused
    rw [Logbook.phases_conclude, phases, List.append_assoc]
    · rfl
    · rw [moving]
      nofun

theorem Course.phases {archived : Nat} (course : Course mover discovery log batches ending after)
    (fetching : log.phase = .fetching) : (after.conclude (ending.outcome archived)).phases =
      log.phases ++ (batches.flatMap fun _ => [.moving, .fetching]) ++ ending.phases := by
  obtain ⟨rest, begun, archives, stops⟩ := course
  obtain ⟨again, phases⟩ := archives.phases fetching
  rw [stops.phases again, phases]

end Cycle

namespace Archiver

variable {archiver : Archiver} {log after : Logbook}

/-- Roots are looked for while fetching, and all other calls are for a batch that is being moved.
Cycles are counted at their end, or while fetching when there is nothing to fetch. -/
structure Orderly (archiver : Archiver) (log : Logbook) : Prop where
  calls : ∀ entry ∈ log.calls,
    entry.phase = .fetching ∧ archiver.finder.Seeks entry.event.call ∨
      entry.phase = .moving ∧ ∃ batch, archiver.mover.MakesFor batch entry.event.call
  counts : ∀ entry ∈ log.counts, entry.counter.isOfCycles = true →
    entry.phase = .success ∨ entry.phase = .failed ∨
      archiver.partitions.isEmpty = true ∧ entry.phase = .fetching

namespace Orderly

theorem blank : archiver.Orderly .blank where
  calls := List.forall_mem_nil _
  counts := List.forall_mem_nil _

theorem enter (orderly : archiver.Orderly log) (phase : Phase) :
    archiver.Orderly (log.enter phase) where
  calls := by
    rw [log.calls_enter]
    exact orderly.calls
  counts := by
    rw [log.counts_enter]
    exact orderly.counts

theorem count (orderly : archiver.Orderly log) (counter : Counter) (amount : Nat)
    (due : log.phase = .success ∨ log.phase = .failed ∨
      archiver.partitions.isEmpty = true ∧ log.phase = .fetching) :
    archiver.Orderly (log.count counter amount) where
  calls := orderly.calls
  counts entry member ofCycles := by
    rcases List.mem_append.mp member with earlier | last
    · exact orderly.counts entry earlier ofCycles
    · cases List.mem_singleton.mp last
      exact due

theorem keep {allowed : Call → Prop} (orderly : archiver.Orderly log)
    (extended : log.Extends allowed after)
    (due : ∀ call, allowed call → log.phase = .fetching ∧ archiver.finder.Seeks call ∨
      log.phase = .moving ∧ ∃ batch, archiver.mover.MakesFor batch call) :
    archiver.Orderly after := by
  obtain ⟨_, ⟨calls, called, allowed⟩, counts, counted, incidental⟩ := extended
  refine ⟨fun entry member => ?_, fun entry member ofCycles => ?_⟩
  · rw [called] at member
    rcases List.mem_append.mp member with earlier | new
    · exact orderly.calls entry earlier
    · obtain ⟨phase, made⟩ := allowed entry new
      rw [phase]
      exact due _ made
  · rw [counted] at member
    rcases List.mem_append.mp member with earlier | new
    · exact orderly.counts entry earlier ofCycles
    · rw [incidental entry new] at ofCycles
      cases ofCycles

end Orderly

variable {mover : Mover}

theorem Orderly.ensures_fail (orderly : archiver.Orderly log) (failure : CycleFailure) :
    (Logbook.setting archiver.Orderly).Ensures (fun _ _ => True) (Cycle.fail failure) log := by
  have first := (orderly.enter .failed).count .archivedInstances failure.archivedBefore
    (Or.inr (Or.inl (log.phase_enter .failed)))
  have second := first.count .cycles 1 (Or.inr (Or.inl (log.phase_enter .failed)))
  have third := second.count .cycleFailures 1 (Or.inr (Or.inl (log.phase_enter .failed)))
  rw [Cycle.fail]
  refine Logbook.ensures_enter .failed (orderly.enter .failed) ?_
  refine Logbook.ensures_count .archivedInstances failure.archivedBefore first ?_
  refine Logbook.ensures_count .cycles 1 second ?_
  refine Logbook.ensures_count .cycleFailures 1 third ?_
  exact Logbook.ensures_enter .idle (third.enter .idle) trivial

theorem Orderly.ensures_succeed (orderly : archiver.Orderly log) (archived : Nat) :
    (Logbook.setting archiver.Orderly).Ensures (fun _ _ => True) (Cycle.succeed archived) log := by
  have first := (orderly.enter .success).count .archivedInstances archived
    (Or.inl (log.phase_enter .success))
  have second := first.count .cycles 1 (Or.inl (log.phase_enter .success))
  rw [Cycle.succeed]
  refine Logbook.ensures_enter .success (orderly.enter .success) ?_
  refine Logbook.ensures_count .archivedInstances archived first ?_
  refine Logbook.ensures_count .cycles 1 second ?_
  exact Logbook.ensures_enter .idle (second.enter .idle) trivial

/-- A turn that leads on looks for the same roots, and order is kept. -/
def Continues (archiver : Archiver) (turned : Cycle ⊕ Cycle.Outcome) (after : Logbook) : Prop :=
  ∀ next, turned = .inl next → next.discovery.finder = archiver.finder ∧ archiver.Orderly after

theorem Orderly.ensures_moveBatch (orderly : archiver.Orderly log) (batch : Batch) {cycle : Cycle}
    (same : cycle.discovery.finder = archiver.finder) :
    (Logbook.setting archiver.Orderly).Ensures archiver.Continues
      (Cycle.moveBatch archiver.mover batch cycle) log := by
  have kept : ∀ after, (log.enter .moving).Extends (archiver.mover.MakesFor batch) after →
      archiver.Orderly after := fun after extended =>
    (orderly.enter .moving).keep extended fun call made =>
      Or.inr ⟨log.phase_enter .moving, batch, made⟩
  rw [Cycle.moveBatch]
  refine Logbook.ensures_enter .moving (orderly.enter .moving) ?_
  rw [Setting.ensures_do]
  refine (Logbook.ensures_within (Mover.asks_move_for batch) kept).mono ?_
  intro result after reached
  have still := kept after reached.2
  rcases result with cause | count
  · simp only [Setting.ensures_do, Namer.suffixOrCrash]
    split
    · refine (still.ensures_fail _).mono ?_
      rintro _ _ _ _ ⟨⟩
    · trivial
  · rintro next ⟨⟩
    exact ⟨same, still⟩

theorem Orderly.ensures_turn (orderly : archiver.Orderly log) {cycle : Cycle}
    (same : cycle.discovery.finder = archiver.finder) :
    (Logbook.setting archiver.Orderly).Ensures archiver.Continues
      (Cycle.turn archiver.mover cycle) log := by
  have asks := cycle.discovery.asks_turn_live
  rw [same] at asks
  have kept : ∀ after, (log.enter .fetching).Extends archiver.finder.Seeks after →
      archiver.Orderly after := fun after extended =>
    (orderly.enter .fetching).keep extended fun call sought =>
      Or.inl ⟨log.phase_enter .fetching, sought⟩
  rw [Cycle.turn_eq]
  refine Logbook.ensures_enter .fetching (orderly.enter .fetching) ?_
  rw [Setting.ensures_do]
  refine (Logbook.ensures_within asks kept).mono ?_
  intro searched after reached
  obtain ⟨finder, extended⟩ := reached
  have still := kept after extended
  rcases searched with next | ⟨rest, cause | _ | batch⟩
  · rintro next ⟨⟩
    exact ⟨finder, still⟩
  · exact (still.ensures_fail _).bind fun _ _ _ => nofun
  · exact (still.ensures_succeed _).bind fun _ _ _ => nofun
  · exact still.ensures_moveBatch batch finder

theorem orderly_of_reaches {fuel : Nat} {now : Instant} {rest : Work Cycle.Outcome}
    (reached : (archiver.cycle fuel now).Reaches service .blank log rest) :
    archiver.Orderly log := by
  have begun : archiver.Orderly (.enter .blank .fetching) := Orderly.blank.enter .fetching
  suffices ensured : (Logbook.setting archiver.Orderly).Ensures (fun _ _ => True)
      (archiver.cycle fuel now) .blank from (ensured.holds .blank reached).1
  rw [cycle]
  refine Logbook.ensures_enter .fetching begun ?_
  split
  · rename_i unowned
    have counted := begun.count .cycles 1 (Or.inr (Or.inr ⟨unowned, rfl⟩))
    refine Logbook.ensures_count .cycles 1 counted ?_
    exact Logbook.ensures_enter .idle (counted.enter .idle) trivial
  · split
    · trivial
    · rename_i discovery begins
      obtain ⟨cutoff, _, rfl⟩ := Option.map_eq_some_iff.mp begins
      refine Setting.Ensures.unfold (fun _ cycle after =>
        cycle.discovery.finder = archiver.finder ∧ archiver.Orderly after)
        (fun _ _ _ => trivial) ?_ fuel _ _ ⟨rfl, begun⟩
      intro left cycle after ready
      refine (ready.2.ensures_turn ready.1).mono ?_
      intro turned later continues
      rcases turned with next | outcome
      · exact continues next rfl
      · trivial

/-- Whatever a cycle is answered, it makes each call and adds to each counter in the phase that is
for it, and when it ends, its phases tell its course: those of fetching and moving in turn, once for
each batch, and then that of its end. -/
theorem cycles_keep_their_phases (archiver : Archiver) (fuel : Nat) (now : Instant) (log : Logbook)
    (rest : Work Cycle.Outcome)
    (reached : (archiver.cycle fuel now).Reaches service .blank log rest) :
    archiver.Orderly log ∧ ∀ outcome, rest = .finish outcome →
      if archiver.partitions.isEmpty then outcome = .ok 0 ∧ log.phases = [.fetching, .idle]
      else ∃ discovery batches ending after,
        Cycle.Course archiver.mover discovery (.enter .blank .fetching) batches ending after ∧
        outcome = ending.outcome (Cycle.rootCount batches) ∧ log = after.conclude outcome ∧
        log.phases = .fetching :: (batches.flatMap fun _ => [.moving, .fetching]) ++
          ending.phases := by
  refine ⟨orderly_of_reaches reached, ?_⟩
  rintro outcome rfl
  have followed := (archiver.exists_reaches_cycle now outcome log).mp ⟨fuel, reached⟩
  split at followed <;> rename_i owned
  · obtain ⟨rfl, rfl⟩ := followed
    rw [if_pos owned]
    exact ⟨rfl, rfl⟩
  · obtain ⟨discovery, batches, ending, after, _, course, rfl, rfl⟩ := followed
    rw [if_neg owned]
    exact ⟨discovery, batches, ending, after, course, rfl, rfl,
      course.phases (Logbook.blank.phase_enter .fetching)⟩

/-- Grants every call and finds the same root in every index, but only once in the live one. -/
def specimenReply (call : Call) (log : Logbook) : Option call.Reply :=
  match call with
  | .search request =>
    if request.index = "operate-list-view_" ∧ log.calls ≠ [] then some (.ok [])
    else some (.ok [⟨"r", request.index, Mover.specimenRoot⟩])
  | call => some call.granted

/-- A cycle that moves one root fetches before the move and after it. -/
theorem lone_root_keeps_the_phases : ∃ log,
    (specimen.cycle 5 specimenWorld.now).Reaches service .blank log (.finish (.ok 1)) ∧
      log.phases = [.fetching, .moving, .fetching, .success, .idle] ∧ log.calls.length = 11 ∧
      specimen.Orderly log := by
  have ended : (Dialogue.follow (Logbook.serve specimenReply) 60 .blank
      (specimen.cycle 5 specimenWorld.now)).2.result? = some (.ok 1) := by decide +kernel
  have reached := Dialogue.reaches_follow (Logbook.serve specimenReply)
    (Logbook.service_serve specimenReply) 60 .blank (specimen.cycle 5 specimenWorld.now)
  rw [Dialogue.eq_finish ended] at reached
  exact ⟨_, reached, by decide +kernel, by decide +kernel,
    (cycles_keep_their_phases _ _ _ _ _ reached).1⟩

end Archiver

end Archivist
