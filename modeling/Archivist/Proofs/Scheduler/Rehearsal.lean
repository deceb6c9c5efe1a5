import Archivist.Proofs.Dialogue.Rehearsal
import Archivist.Proofs.Scheduler.Watch
import Archivist.Rehearsal.Scene

set_option autoImplicit false

namespace Archivist.Rehearsal

variable {Result : Type} {party : Party}

/-- Whenever it is woken, paused work goes on as some other work may, or it breaks off. -/
def Paused.Resumes (paused : Paused Result) (work : Work Result) : Prop :=
  ∀ world : World, ∃ rest, work.Reaches Desk.service world.desk (paused.wake world).1.desk rest ∧
    ((paused.wake world).2 = rest ∨ ∃ cause, (paused.wake world).2 = .crash cause)

/-- What is left of some work, as far as its progress tells. Work may break off anywhere. -/
def Progress.Leaves : Progress Result → Work Result → Prop
  | .finished result, rest => rest = .finish result
  | .crashed _, _ => True
  | .paused waiting, rest => waiting.Resumes rest

def Follows (begun : Desk) (work : Work Result) (came : World × Progress Result) : Prop :=
  ∃ rest, work.Reaches Desk.service begun came.1.desk rest ∧ came.2.Leaves rest

theorem Follows.since {begun between : Desk} {work rest : Work Result}
    {came : World × Progress Result} (follows : Follows between rest came)
    (reached : work.Reaches Desk.service begun between rest) : Follows begun work came := by
  obtain ⟨last, further, leaves⟩ := follows
  exact ⟨last, reached.trans further, leaves⟩

theorem follows_paused {world : World} {action : Action} {resume : action.Yield → Work Result}
    {paused : Paused Result}
    (wakes : ∀ world : World, ∃ answer, (paused.wake world).1.desk = world.desk.after action ∧
      ((paused.wake world).2 = resume answer ∨ ∃ cause, (paused.wake world).2 = .crash cause)) :
    Follows world.desk (.ask action resume) (world, .paused paused) := by
  refine ⟨_, .here _ _, fun later => ?_⟩
  obtain ⟨answer, desk, goesOn⟩ := wakes later
  refine ⟨resume answer, ?_, goesOn⟩
  rw [desk]
  exact .onward answer rfl (.here _ _)

theorem World.desk_settle (world : World) (interference : Interference) (call : Call) :
    (world.settle interference call).2.desk = world.desk := by
  cases interference <;> rfl

theorem desk_goOn (world : World) (interference : Interference) (call : Call)
    (resume : Option call.Reply → Work Result) :
    ∃ answer, (goOn world interference call resume).1.desk = world.desk ∧
      ((goOn world interference call resume).2 = resume answer ∨
        ∃ cause, (goOn world interference call resume).2 = .crash cause) := by
  refine ⟨some (world.settle interference call).1, world.desk_settle interference call, ?_⟩
  by_cases breaks : world.breaksOff interference call
  · exact Or.inr ⟨.noOrder, if_pos breaks⟩
  · exact Or.inl (if_neg breaks)

theorem follows_carryOn (world : World) (work : Work Result) :
    Follows world.desk work (carryOn party world work) := by
  induction work generalizing world with
  | finish result => exact ⟨_, .here _ _, rfl⟩
  | crash cause => exact ⟨_, .here _ _, trivial⟩
  | ask action resume ih =>
    -- Where the question is answered at once, the rest goes on from the desk after it.
    have answered (answer : action.Yield) (next : World)
        (desk : next.desk = world.desk.after action) :
        Follows world.desk (.ask action resume) (carryOn party next (resume answer)) :=
      (ih answer next).since (.onward answer desk (.here _ _))
    cases action with
    | recalls destination => exact answered _ world rfl
    | remember destination => exact answered () _ rfl
    | enter phase => exact answered () { world with phase := phase } rfl
    | count counter amount =>
      exact answered () { world with counters := world.counters.add amount counter } rfl
    | rest millis =>
      rw [carryOn]
      split
      · exact answered () world rfl
      · exact follows_paused fun later => ⟨(), rfl, Or.inl rfl⟩
    | attempt call limit =>
      simp only [carryOn]
      split
      · split
        · refine ⟨.ask _ resume, ?_, trivial⟩
          simp only [World.desk_settle]
          exact .here _ _
        · exact answered _ _ (World.desk_settle _ _ call)
      · split
        · exact follows_paused fun later => desk_goOn later _ call resume
        · split
          · exact answered none (world.notice party call).2 rfl
          · exact follows_paused fun later => ⟨none, rfl, Or.inl rfl⟩

namespace Loop

/-- All that a loop does at a time: it goes on with its cycle, begins one, or comes to act. -/
theorem cases_of_step {loop : Loop} {world : World} {next : World × Loop}
    (steps : loop.step? world = some next) :
    (∃ paused, loop.underWay = some paused ∧
      next = loop.follow (carryOn .job (paused.wake world).1 (paused.wake world).2)) ∨
    loop.underWay = none ∧ loop.scheduler.stage = .cycling ∧
      next = loop.follow (carryOn .job world (loop.archiver.cycle patience world.now)) ∨
    loop.underWay = none ∧ loop.scheduler.stage.isIdle = true ∧
      next = (world,
        { loop with underWay := none, scheduler := loop.scheduler.poll world.elapsed }) := by
  rw [step?] at steps
  cases underWay : loop.underWay with
  | some paused =>
    simp only [underWay] at steps
    split at steps
    · exact Or.inl ⟨paused, rfl, (Option.some.inj steps).symm⟩
    · cases steps
  | none =>
    simp only [underWay] at steps
    cases stage : loop.scheduler.stage with
    | built | returned =>
      simp only [stage] at steps
      cases steps
    | cycling =>
      simp only [stage] at steps
      exact Or.inr (Or.inl ⟨rfl, rfl, (Option.some.inj steps).symm⟩)
    | starting | waiting delay deadline =>
      simp only [stage] at steps
      split at steps
      · cases steps
      · exact Or.inr (Or.inr ⟨rfl, rfl, (Option.some.inj steps).symm⟩)

/-- A loop in a world is as a watch tells. A cycle that the loop has turned to begins when it acts
next. -/
structure Mirrors (archiver : Archiver) (loop : Loop) (world : World) (watch : Watch) : Prop where
  runs : loop.archiver = archiver
  scheduler : watch.scheduler = loop.scheduler
  crash : watch.crash = loop.crash
  desk : watch.desk = world.desk
  paused : ∀ paused, loop.underWay = some paused →
    ∃ work, watch.underWay = some work ∧ paused.Resumes work
  ready : loop.underWay = none → watch.underWay =
    if loop.scheduler.stage = .cycling then some (archiver.cycle patience world.now) else none

theorem desk_publish (loop : Loop) (world : World) : (loop.publish world).desk = world.desk := by
  rw [publish]
  split <;> rfl

theorem mirrors_crashed {archiver : Archiver} {loop : Loop} {world : World} {watch : Watch}
    (runs : loop.archiver = archiver) (scheduler : watch.scheduler = loop.scheduler)
    (desk : watch.desk = world.desk) (cause : Crash) :
    (loop.follow (world, .crashed cause)).2.Mirrors archiver world
      { watch with
        underWay := none
        scheduler := { watch.scheduler with stage := .returned }
        crash := some cause } where
  runs := runs
  scheduler := congrArg ({ · with stage := .returned }) scheduler
  crash := rfl
  desk := desk
  paused := nofun
  ready _ := rfl

namespace Mirrors

variable {archiver : Archiver} {loop : Loop} {world : World} {watch : Watch}
  (mirrors : loop.Mirrors archiver world watch)
include mirrors

theorem follow {work : Work Cycle.Outcome} {came : World × Progress Cycle.Outcome}
    (busy : watch.underWay = some work) (follows : Follows world.desk work came) :
    ∃ later, Watch.Runs archiver watch later ∧
      (loop.follow came).2.Mirrors archiver (loop.follow came).1 later := by
  obtain ⟨rest, reached, leaves⟩ := follows
  rw [← mirrors.desk] at reached
  have runs : Watch.Runs archiver watch _ := Watch.runs_of_reaches reached busy
  obtain ⟨next, outcome | cause | paused⟩ := came
  case finished =>
    obtain rfl : rest = .finish outcome := leaves
    refine ⟨_, runs.tail (.ends _ outcome rfl next.elapsed), ?_⟩
    constructor
    case runs => exact mirrors.runs
    case scheduler => exact congrArg (·.cycleEnded next.elapsed outcome) mirrors.scheduler
    case crash => exact mirrors.crash
    case desk => exact (loop.desk_publish next).symm
    case paused =>
      intro paused waits
      cases waits
    case ready => exact fun _ => rfl
  case crashed =>
    refine ⟨_, runs.tail (.breaks _ cause), mirrors_crashed mirrors.runs ?_ rfl cause⟩
    exact mirrors.scheduler
  case paused =>
    refine ⟨_, runs, ?_⟩
    constructor
    case runs => exact mirrors.runs
    case scheduler => exact mirrors.scheduler
    case crash => exact mirrors.crash
    case desk => rfl
    case paused =>
      intro other same
      obtain rfl : paused = other := Option.some.inj same
      exact ⟨rest, rfl, leaves⟩
    case ready => exact nofun

theorem undergo (event : Scheduler.Event) (time : Nat) :
    Mirrors archiver { loop with scheduler := loop.scheduler.undergo event }
      { world with elapsed := time }
      { watch with scheduler := watch.scheduler.undergo event } where
  runs := mirrors.runs
  scheduler := congrArg (·.undergo event) mirrors.scheduler
  crash := mirrors.crash
  desk := mirrors.desk
  paused := mirrors.paused
  ready free := by
    rw [show watch.underWay = _ from mirrors.ready free]
    rcases loop.scheduler.stage_undergo event with same | ⟨starting, built⟩
    · rw [same]
    · simp only [starting, built, reduceCtorEq]

theorem poll (free : watch.underWay = none) :
    Mirrors archiver
      { loop with underWay := none, scheduler := loop.scheduler.poll world.elapsed } world
      (watch.poll archiver patience world.now world.elapsed) := by
  have scheduler : (watch.poll archiver patience world.now world.elapsed).scheduler =
      loop.scheduler.poll world.elapsed := by
    rw [Watch.poll, mirrors.scheduler]
    split <;> rfl
  constructor
  case runs => exact mirrors.runs
  case scheduler => exact scheduler
  case crash =>
    rw [Watch.poll]
    split <;> exact mirrors.crash
  case desk =>
    rw [Watch.poll]
    split <;> exact mirrors.desk
  case paused =>
    intro paused waits
    cases waits
  case ready =>
    intro _
    simp only [Watch.poll, mirrors.scheduler]
    split
    · rfl
    · exact free

theorem step {next : World × Loop} (steps : loop.step? world = some next) :
    ∃ later, Watch.Runs archiver watch later ∧ next.2.Mirrors archiver next.1 later := by
  rcases cases_of_step steps with ⟨paused, underWay, rfl⟩ | ⟨free, cycling, rfl⟩ | ⟨free, idle, rfl⟩
  · obtain ⟨work, busy, resumes⟩ := mirrors.paused paused underWay
    obtain ⟨rest, reached, goesOn | ⟨cause, breaks⟩⟩ := resumes world
    · rw [goesOn]
      exact mirrors.follow busy ((follows_carryOn _ rest).since reached)
    · rw [breaks]
      exact mirrors.follow busy ⟨rest, reached, trivial⟩
  · refine mirrors.follow ((mirrors.ready free).trans (if_pos cycling)) ?_
    rw [mirrors.runs]
    exact follows_carryOn _ _
  · have waits : loop.scheduler.stage ≠ .cycling := fun cycling => by
      rw [cycling] at idle
      cases idle
    have ready : watch.underWay = none := (mirrors.ready free).trans (if_neg waits)
    exact ⟨_, .single (.polls watch patience world.now world.elapsed ready), mirrors.poll ready⟩

theorem react (fuel : Nat) :
    ∃ later, Watch.Runs archiver watch later ∧
      (loop.react fuel world).2.Mirrors archiver (loop.react fuel world).1 later := by
  induction fuel generalizing loop world watch with
  | zero =>
    exact ⟨_, .single (.breaks watch .exhausted),
      mirrors_crashed mirrors.runs mirrors.scheduler mirrors.desk .exhausted⟩
  | succ left ih =>
    rw [Loop.react]
    split
    · rename_i next changed steps
      obtain ⟨between, first, mirrored⟩ := mirrors.step steps
      obtain ⟨later, second, mirrors⟩ := ih mirrored
      exact ⟨later, first.trans second, mirrors⟩
    · exact ⟨watch, .refl, mirrors⟩

end Mirrors

end Loop

end Archivist.Rehearsal
