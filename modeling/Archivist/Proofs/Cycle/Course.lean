import Archivist.Proofs.Cycle.Turn
import Archivist.Proofs.Dialogue.Logbook
import Archivist.Proofs.Move.Asking

set_option autoImplicit false

namespace Archivist

open Calendar (Instant)

namespace Logbook

variable {Result : Type} {log last : Logbook} {result : Result}

theorem reaches_enter {phase : Phase} {next : Unit → Work Result} :
    (Work.enter phase >>= next).Reaches service log last (.finish result) ↔
      (next ()).Reaches service (log.enter phase) last (.finish result) := by
  constructor
  · intro reached
    obtain ⟨_, between, same, further⟩ := Dialogue.reaches_ask.mp reached
    obtain rfl := same
    exact further
  · exact fun further => .onward () rfl further

theorem reaches_count {counter : Counter} {amount : Nat} {next : Unit → Work Result} :
    (Work.count counter amount >>= next).Reaches service log last (.finish result) ↔
      (next ()).Reaches service (log.count counter amount) last (.finish result) := by
  constructor
  · intro reached
    obtain ⟨_, between, same, further⟩ := Dialogue.reaches_ask.mp reached
    obtain rfl := same
    exact further
  · exact fun further => .onward () rfl further

def conclude (log : Logbook) : Cycle.Outcome → Logbook
  | .ok archived =>
    (((log.enter .success).count .archivedInstances archived).count .cycles 1).enter .idle
  | .error failure =>
    ((((log.enter .failed).count .archivedInstances failure.archivedBefore).count .cycles 1).count
      .cycleFailures 1).enter .idle

@[simp] theorem calls_conclude (log : Logbook) (outcome : Cycle.Outcome) :
    (log.conclude outcome).calls = log.calls := by
  cases outcome <;> simp only [conclude, calls_enter, calls_count]

end Logbook

open Logbook (service)

/-- A call that looks for roots in their live index. -/
def Finder.Seeks (finder : Finder) (call : Call) : Prop :=
  ∃ request, call = .search request ∧ request.index = finder.root.index

namespace Discovery

def Brings (discovery : Discovery) (log : Logbook) (rest : Discovery)
    (result : Except ArchiveFailure (Option Batch)) (after : Logbook) : Prop :=
  ∃ fuel, (discovery.next fuel).Reaches service log after (.finish (rest, result))

variable {discovery next rest : Discovery} {log between after : Logbook}
  {result : Except ArchiveFailure (Option Batch)}

theorem Brings.of_turn
    (turned : discovery.turn.Reaches service log after (.finish (.inr (rest, result)))) :
    discovery.Brings log rest result after :=
  ⟨1, Dialogue.reaches_unfold.mpr ⟨_, _, turned, rfl, rfl⟩⟩

theorem Brings.after_page
    (turned : discovery.turn.Reaches service log between (.finish (.inl next)))
    (brings : next.Brings between rest result after) :
    discovery.Brings log rest result after := by
  obtain ⟨fuel, further⟩ := brings
  exact ⟨fuel + 1, Dialogue.reaches_unfold.mpr ⟨_, _, turned, further⟩⟩

theorem asks_turn {calls : Call → Prop} (discovery : Discovery)
    (searches : calls (.search discovery.search)) :
    (Work.within calls).Ensures
      (fun turned _ => discovery.Pursues (Sum.elim id Prod.fst turned)) discovery.turn () := by
  rw [turn]
  cases drawn : discovery.draw with
  | batch batch rest =>
    obtain ⟨others, _, rfl⟩ := draw_batch drawn
    exact ⟨rfl, rfl, rfl⟩
  | finished => exact discovery.pursues_refl
  | fetch =>
    refine (discovery.asks_fetch searches).bind ?_
    rintro ⟨fetched, _ | _⟩ after kept <;> exact kept

theorem asks_turn_live (discovery : Discovery) :
    (Work.within discovery.finder.Seeks).Ensures
      (fun turned _ => (Sum.elim id Prod.fst turned).finder = discovery.finder)
      discovery.turn () := by
  have seeks : discovery.finder.Seeks (.search discovery.search) := ⟨_, rfl, rfl⟩
  exact (discovery.asks_turn seeks).mono fun _ _ pursues => pursues.finder

theorem extends_of_turn {turned : Discovery ⊕ (Discovery × Except ArchiveFailure (Option Batch))}
    (reached : discovery.turn.Reaches service log after (.finish turned)) :
    (Sum.elim id Prod.fst turned).finder = discovery.finder ∧
      log.Extends discovery.finder.Seeks after := by
  have extended := Logbook.extends_of_reaches discovery.asks_turn_live reached
  exact extended

end Discovery

namespace Mover

variable {mover : Mover} {batch : Batch} {result : Except ArchiveFailure Nat} {log after : Logbook}

theorem extends_of_move
    (reached : (mover.move batch).Reaches service log after (.finish result)) :
    (∀ count, result = .ok count → count = batch.ids.length) ∧
      log.Extends (mover.MakesFor batch) after := by
  have extended := Logbook.extends_of_reaches (asks_move_for batch) reached
  exact extended

theorem count_of_move {count : Nat}
    (moved : (mover.move batch).Reaches service log after (.finish (.ok count))) :
    count = batch.ids.length :=
  (extends_of_move moved).1 count rfl

end Mover

namespace Cycle

def proceed (mover : Mover) (cycle : Cycle) :
    Discovery ⊕ (Discovery × Except ArchiveFailure (Option Batch)) → Work (Cycle ⊕ Outcome)
  | .inl discovery => .finish (.inl { cycle with discovery := discovery })
  | .inr (rest, .ok (some batch)) => moveBatch mover batch { cycle with discovery := rest }
  | .inr (_, .ok none) => (succeed cycle.archived).bind fun outcome => .finish (.inr outcome)
  | .inr (_, .error cause) =>
    (fail ⟨"", 0, cycle.archived, cause⟩).bind fun outcome => .finish (.inr outcome)

inductive Archives (mover : Mover) :
    Discovery → Logbook → List Batch → Discovery → Logbook → Prop where
  | nothing (discovery : Discovery) (log : Logbook) : Archives mover discovery log [] discovery log
  | further {discovery rest last : Discovery} {log found after final : Logbook} {batch : Batch}
      {batches : List Batch} {count : Nat}
      (brings : discovery.Brings log rest (.ok (some batch)) found)
      (moved : (mover.move batch).Reaches service (found.enter .moving) after
        (.finish (.ok count)))
      (onward : Archives mover rest (after.enter .fetching) batches last final) :
    Archives mover discovery log (batch :: batches) last final

inductive Ending where
  | finished
  | unfetched (cause : ArchiveFailure)
  | unmoved (batch : Batch) (finishDate : String) (cause : ArchiveFailure)

def Ending.outcome (archived : Nat) : Ending → Outcome
  | .finished => .ok archived
  | .unfetched cause => .error ⟨"", 0, archived, cause⟩
  | .unmoved batch finishDate cause => .error ⟨finishDate, batch.ids.length, archived, cause⟩

/-- A cycle comes to its end: there are no more batches, the next page cannot be fetched, or the next
batch cannot be moved. -/
inductive Stops (mover : Mover) (discovery : Discovery) (log : Logbook) :
    Ending → Logbook → Prop where
  | finished {rest : Discovery} {after : Logbook}
      (brings : discovery.Brings log rest (.ok none) after) :
    Stops mover discovery log .finished after
  | unfetched {rest : Discovery} {after : Logbook} {cause : ArchiveFailure}
      (brings : discovery.Brings log rest (.error cause) after) :
    Stops mover discovery log (.unfetched cause) after
  | unmoved {rest : Discovery} {found after : Logbook} {batch : Batch} {finishDate : String}
      {cause : ArchiveFailure} (brings : discovery.Brings log rest (.ok (some batch)) found)
      (named : mover.namer.suffix batch.finishDate = some finishDate)
      (refused : (mover.move batch).Reaches service (found.enter .moving) after
        (.finish (.error cause))) :
    Stops mover discovery log (.unmoved batch finishDate cause) after

def rootCount (batches : List Batch) : Nat := (batches.map fun batch => batch.ids.length).sum

def Course (mover : Mover) (discovery : Discovery) (log : Logbook) (batches : List Batch)
    (ending : Ending) (after : Logbook) : Prop :=
  ∃ rest begun, Archives mover discovery log batches rest begun ∧ Stops mover rest begun ending after

variable {mover : Mover} {cycle : Cycle} {log between after last : Logbook} {outcome : Outcome}

theorem turn_eq (mover : Mover) (cycle : Cycle) : turn mover cycle =
    Work.enter .fetching >>= fun _ => cycle.discovery.turn >>= proceed mover cycle := by
  rw [turn, Discovery.turn]
  refine congrArg (Work.enter .fetching >>= ·) (funext fun _ => ?_)
  cases cycle.discovery.draw with
  | batch batch rest => rfl
  | finished => rfl
  | fetch =>
    refine (congrArg cycle.discovery.fetch.bind (funext fun fetched => ?_)).trans
      (Dialogue.bind_bind _ _ _).symm
    obtain ⟨discovery, _ | _⟩ := fetched <;> rfl

theorem reaches_turn {turned : Cycle ⊕ Outcome} :
    (turn mover cycle).Reaches service log after (.finish turned) ↔
      ∃ searched between,
        cycle.discovery.turn.Reaches service (log.enter .fetching) between (.finish searched) ∧
          (proceed mover cycle searched).Reaches service between after (.finish turned) := by
  rw [turn_eq, Logbook.reaches_enter, Dialogue.reaches_do]

theorem reaches_fail {failure : CycleFailure} :
    (fail failure).Reaches service log after (.finish outcome) ↔
      log.conclude (.error failure) = after ∧ .error failure = outcome := by
  rw [fail, Logbook.reaches_enter, Logbook.reaches_count, Logbook.reaches_count,
    Logbook.reaches_count, Logbook.reaches_enter]
  exact Dialogue.reaches_finish

theorem reaches_succeed {archived : Nat} :
    (succeed archived).Reaches service log after (.finish outcome) ↔
      log.conclude (.ok archived) = after ∧ .ok archived = outcome := by
  rw [succeed, Logbook.reaches_enter, Logbook.reaches_count, Logbook.reaches_count,
    Logbook.reaches_enter]
  exact Dialogue.reaches_finish

theorem reaches_moveBatch {batch : Batch} {turned : Cycle ⊕ Outcome} :
    (moveBatch mover batch cycle).Reaches service log last (.finish turned) ↔
      ∃ result after,
        (mover.move batch).Reaches service (log.enter .moving) after (.finish result) ∧
          match result with
          | .ok count =>
            after = last ∧ .inl { cycle with archived := cycle.archived + count } = turned
          | .error cause => ∃ finishDate, mover.namer.suffix batch.finishDate = some finishDate ∧
            after.conclude (.error ⟨finishDate, batch.ids.length, cycle.archived, cause⟩) = last ∧
            .inr (.error ⟨finishDate, batch.ids.length, cycle.archived, cause⟩) = turned := by
  rw [moveBatch, Logbook.reaches_enter, Dialogue.reaches_do]
  refine exists_congr fun result => exists_congr fun after => and_congr_right fun _ => ?_
  rcases result with cause | count
  · simp only [Dialogue.reaches_do, Namer.suffixOrCrash]
    cases named : mover.namer.suffix batch.finishDate with
    | none =>
      constructor
      · rintro ⟨_, _, crashed, _⟩
        exact absurd crashed Dialogue.not_reaches_crash
      · rintro ⟨_, ⟨⟩, _⟩
    | some suffix =>
      simp only [Dialogue.reaches_finish, reaches_fail]
      constructor
      · rintro ⟨_, _, ⟨rfl, rfl⟩, _, _, ⟨rfl, rfl⟩, ended⟩
        obtain ⟨rfl, rfl⟩ := Dialogue.reaches_finish.mp ended
        exact ⟨_, rfl, rfl, rfl⟩
      · rintro ⟨_, ⟨⟩, rfl, rfl⟩
        exact ⟨_, _, ⟨rfl, rfl⟩, _, _, ⟨rfl, rfl⟩, .here _ _⟩
  · exact Dialogue.reaches_finish

theorem Course.after_page {discovery next : Discovery} {batches : List Batch} {ending : Ending}
    (turned : discovery.turn.Reaches service log between (.finish (.inl next)))
    (course : Course mover next between batches ending after) :
    Course mover discovery log batches ending after := by
  obtain ⟨rest, begun, archives, stops⟩ := course
  cases archives with
  | nothing =>
    refine ⟨discovery, log, .nothing discovery log, ?_⟩
    cases stops with
    | finished brings => exact .finished (brings.after_page turned)
    | unfetched brings => exact .unfetched (brings.after_page turned)
    | unmoved brings named refused => exact .unmoved (brings.after_page turned) named refused
  | further brings moved onward =>
    exact ⟨rest, begun, .further (brings.after_page turned) moved onward, stops⟩

theorem Course.stops {discovery : Discovery} {ending : Ending}
    (stops : Stops mover discovery log ending after) : Course mover discovery log [] ending after :=
  ⟨discovery, log, .nothing discovery log, stops⟩

/-- The turns of a cycle that has come to its end have followed a course. -/
theorem exists_course (fuel : Nat)
    (reached : (Dialogue.unfold (turn mover) fuel cycle).Reaches service log last
      (.finish outcome)) :
    ∃ batches ending after,
      Course mover cycle.discovery (log.enter .fetching) batches ending after ∧
        ending.outcome (cycle.archived + rootCount batches) = outcome ∧
          after.conclude outcome = last := by
  induction fuel generalizing cycle log with
  | zero => exact absurd reached Dialogue.not_reaches_crash
  | succ left ih =>
    obtain ⟨turned, between, first, second⟩ := Dialogue.reaches_unfold.mp reached
    obtain ⟨searched, found, searching, proceeded⟩ := reaches_turn.mp first
    rcases searched with next | ⟨rest, result⟩
    · obtain ⟨rfl, rfl⟩ := Dialogue.reaches_finish.mp proceeded
      have fetching : found.phase = .fetching :=
        (Discovery.extends_of_turn searching).2.phase.trans (log.phase_enter .fetching)
      obtain ⟨batches, ending, after, course, ends⟩ := ih second
      rw [found.enter_of_phase fetching] at course
      exact ⟨batches, ending, after, course.after_page searching, ends⟩
    · have brings := Discovery.Brings.of_turn searching
      rcases result with cause | _ | batch
      · obtain ⟨_, _, failed, ended⟩ := Dialogue.reaches_bind.mp proceeded
        obtain ⟨rfl, rfl⟩ := reaches_fail.mp failed
        obtain ⟨rfl, rfl⟩ := Dialogue.reaches_finish.mp ended
        obtain ⟨rfl, rfl⟩ := second
        exact ⟨[], .unfetched cause, found, .stops (.unfetched brings), rfl, rfl⟩
      · obtain ⟨_, _, succeeded, ended⟩ := Dialogue.reaches_bind.mp proceeded
        obtain ⟨rfl, rfl⟩ := reaches_succeed.mp succeeded
        obtain ⟨rfl, rfl⟩ := Dialogue.reaches_finish.mp ended
        obtain ⟨rfl, rfl⟩ := second
        exact ⟨[], .finished, found, .stops (.finished brings), rfl, rfl⟩
      · obtain ⟨result, moved, move, ended⟩ := reaches_moveBatch.mp proceeded
        rcases result with cause | count
        · obtain ⟨finishDate, named, rfl, rfl⟩ := ended
          obtain ⟨rfl, rfl⟩ := second
          exact ⟨[], .unmoved batch finishDate cause, moved, .stops (.unmoved brings named move),
            rfl, rfl⟩
        · obtain ⟨rfl, rfl⟩ := ended
          obtain ⟨batches, ending, after, course, total, closed⟩ := ih second
          obtain ⟨last, begun, archives, stops⟩ := course
          refine ⟨batch :: batches, ending, after, ⟨last, begun, .further brings move archives,
            stops⟩, ?_, closed⟩
          rw [← total, Mover.count_of_move move, rootCount, List.map_cons, List.sum_cons,
            Nat.add_assoc]
          rfl

def Ends (mover : Mover) (cycle : Cycle) (log : Logbook) (outcome : Outcome) (last : Logbook) :
    Prop :=
  ∃ fuel, (Dialogue.unfold (turn mover) fuel cycle).Reaches service log last (.finish outcome)

theorem Ends.of_turn
    (turned : (turn mover cycle).Reaches service log last (.finish (.inr outcome))) :
    Ends mover cycle log outcome last :=
  ⟨1, Dialogue.reaches_unfold.mpr ⟨_, _, turned, rfl, rfl⟩⟩

theorem Ends.onward {next : Cycle}
    (turned : (turn mover cycle).Reaches service log between (.finish (.inl next)))
    (ends : Ends mover next between outcome last) : Ends mover cycle log outcome last := by
  obtain ⟨fuel, further⟩ := ends
  exact ⟨fuel + 1, Dialogue.reaches_unfold.mpr ⟨_, _, turned, further⟩⟩

theorem Ends.of_enter (ends : Ends mover cycle (log.enter .fetching) outcome last) :
    Ends mover cycle log outcome last := by
  obtain ⟨fuel, reached⟩ := ends
  refine ⟨fuel, ?_⟩
  cases fuel with
  | zero => exact absurd reached Dialogue.not_reaches_crash
  | succ left =>
    obtain ⟨turned, between, first, second⟩ := Dialogue.reaches_unfold.mp reached
    rw [reaches_turn, (log.enter .fetching).enter_of_phase (log.phase_enter .fetching),
      ← reaches_turn] at first
    exact Dialogue.reaches_unfold.mpr ⟨turned, between, first, second⟩

theorem Ends.of_brings {discovery rest : Discovery} {archived : Nat}
    {result : Except ArchiveFailure (Option Batch)}
    (brings : discovery.Brings log rest result after) (fetching : log.phase = .fetching)
    (further : ∀ waiting now, now.phase = .fetching →
      waiting.turn.Reaches service now after (.finish (.inr (rest, result))) →
        Ends mover ⟨waiting, archived⟩ now outcome last) :
    Ends mover ⟨discovery, archived⟩ log outcome last := by
  obtain ⟨fuel, reached⟩ := brings
  induction fuel generalizing discovery log with
  | zero => exact absurd reached Dialogue.not_reaches_crash
  | succ left ih =>
    obtain ⟨turned, between, first, second⟩ := Dialogue.reaches_unfold.mp reached
    rcases turned with next | final
    · have same : between.phase = .fetching :=
        (Discovery.extends_of_turn first).2.phase.trans fetching
      refine Ends.onward (reaches_turn.mpr ⟨.inl next, between, ?_, .here _ _⟩) (ih same second)
      rw [log.enter_of_phase fetching]
      exact first
    · obtain ⟨rfl, rfl⟩ := second
      exact further discovery log fetching first

theorem reaches_turn_of_result {discovery rest : Discovery} {archived : Nat}
    {result : Except ArchiveFailure (Option Batch)} {turned : Cycle ⊕ Outcome}
    (searched : discovery.turn.Reaches service log between (.finish (.inr (rest, result))))
    (fetching : log.phase = .fetching)
    (proceeded : (proceed mover ⟨discovery, archived⟩ (.inr (rest, result))).Reaches service between
      after (.finish turned)) :
    (turn mover ⟨discovery, archived⟩).Reaches service log after (.finish turned) := by
  refine reaches_turn.mpr ⟨_, between, ?_, proceeded⟩
  rw [log.enter_of_phase fetching]
  exact searched

theorem Stops.ends {discovery : Discovery} {archived : Nat} {ending : Ending}
    (stops : Stops mover discovery log ending after) (fetching : log.phase = .fetching) :
    Ends mover ⟨discovery, archived⟩ log (ending.outcome archived)
      (after.conclude (ending.outcome archived)) := by
  cases stops with
  | finished brings =>
    refine .of_brings brings fetching fun waiting now current searched => ?_
    refine .of_turn (reaches_turn_of_result searched current ?_)
    exact (reaches_succeed.mpr ⟨rfl, rfl⟩).bind _
  | unfetched brings =>
    refine .of_brings brings fetching fun waiting now current searched => ?_
    refine .of_turn (reaches_turn_of_result searched current ?_)
    exact (reaches_fail.mpr ⟨rfl, rfl⟩).bind _
  | unmoved brings named refused =>
    refine .of_brings brings fetching fun waiting now current searched => ?_
    refine .of_turn (reaches_turn_of_result searched current ?_)
    exact reaches_moveBatch.mpr ⟨_, _, refused, _, named, rfl, rfl⟩

theorem Course.ends {discovery : Discovery} {archived : Nat} {batches : List Batch}
    {ending : Ending} (course : Course mover discovery log batches ending after)
    (fetching : log.phase = .fetching) :
    Ends mover ⟨discovery, archived⟩ log (ending.outcome (archived + rootCount batches))
      (after.conclude (ending.outcome (archived + rootCount batches))) := by
  obtain ⟨rest, begun, archives, stops⟩ := course
  induction archives generalizing archived with
  | nothing discovery log => exact stops.ends fetching
  | @further discovery rest last log found moved final batch batches count brings move onward ih =>
    refine .of_brings brings fetching fun waiting now current searched => ?_
    refine .onward (reaches_turn_of_result searched current
      (reaches_moveBatch.mpr ⟨_, _, move, rfl, rfl⟩)) (.of_enter ?_)
    rw [rootCount, List.map_cons, List.sum_cons, ← Mover.count_of_move move, ← Nat.add_assoc]
    exact ih (moved.phase_enter .fetching) stops

theorem ends_iff (fetching : log.phase = .fetching) : Ends mover cycle log outcome last ↔
    ∃ batches ending after, Course mover cycle.discovery log batches ending after ∧
      ending.outcome (cycle.archived + rootCount batches) = outcome ∧
        after.conclude outcome = last := by
  constructor
  · rintro ⟨fuel, reached⟩
    have followed := exists_course fuel reached
    rwa [log.enter_of_phase fetching] at followed
  · rintro ⟨batches, ending, after, course, rfl, rfl⟩
    exact course.ends fetching

end Cycle

/-- A cycle of an archiver that owns partitions comes to an outcome just by following a course. One
that owns none has nothing to do. -/
theorem Archiver.exists_reaches_cycle (archiver : Archiver) (now : Instant)
    (outcome : Cycle.Outcome) (last : Logbook) :
    (∃ fuel, (archiver.cycle fuel now).Reaches service .blank last (.finish outcome)) ↔
      if archiver.partitions.isEmpty then
        .ok 0 = outcome ∧ (((Logbook.blank.enter .fetching).count .cycles 1).enter .idle) = last
      else ∃ discovery batches ending after,
        archiver.finder.begin archiver.partitions.ids archiver.batchSize now = some discovery ∧
        Cycle.Course archiver.mover discovery (.enter .blank .fetching) batches ending after ∧
        ending.outcome (Cycle.rootCount batches) = outcome ∧ after.conclude outcome = last := by
  have fetching : (Logbook.blank.enter .fetching).phase = .fetching := Logbook.blank.phase_enter _
  simp only [cycle, Logbook.reaches_enter]
  split
  · rw [exists_const, Logbook.reaches_count, Logbook.reaches_enter]
    exact Dialogue.reaches_finish.trans and_comm
  · cases begun : archiver.finder.begin archiver.partitions.ids archiver.batchSize now with
    | none =>
      constructor
      · rintro ⟨_, crashed⟩
        exact absurd crashed Dialogue.not_reaches_crash
      · rintro ⟨_, _, _, _, ⟨⟩, _⟩
    | some discovery =>
      refine (Cycle.ends_iff fetching).trans ?_
      simp only [Option.some.injEq, exists_and_left, exists_eq_left', Nat.zero_add]

end Archivist
