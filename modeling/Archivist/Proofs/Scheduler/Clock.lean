import Archivist.Proofs.Scheduler.Rehearsal
import Archivist.Proofs.Scheduler.Timeline

set_option autoImplicit false

namespace Archivist

theorem Timeline.Runs.clock_le {before after : Timeline} (runs : before.Runs after) :
    before.clock ≤ after.clock := by
  induction runs with
  | refl => exact Nat.le_refl _
  | tail _ step ih =>
    cases step with
    | passes time later quiet early => exact Nat.le_trans ih later
    | undergoes event possible | polls idle | ends outcome cycling => exact ih

namespace Rehearsal

variable {Result : Type}

def Paused.IsInstant (paused : Paused Result) : Prop :=
  ∀ world : World, (paused.wake world).1.elapsed = world.elapsed

theorem World.elapsed_settle (world : World) (interference : Interference) (call : Call) :
    (world.settle interference call).2.elapsed = world.elapsed := by
  cases interference <;> rfl

/-- Work is carried on at one time, and only where it waits will it go on at another. -/
theorem instant_carryOn (party : Party) (world : World) (work : Work Result) :
    (carryOn party world work).1.elapsed = world.elapsed ∧
      ∀ paused, (carryOn party world work).2 = .paused paused → paused.IsInstant := by
  induction work generalizing world with
  | finish result | crash cause => exact ⟨rfl, fun _ same => by cases same⟩
  | ask action resume ih =>
    have waits (waiting : Paused Result) (instant : waiting.IsInstant) :
        ∀ paused, Progress.paused waiting = .paused paused → paused.IsInstant := by
      intro paused same
      cases same
      exact instant
    cases action with
    | recalls destination => exact ih _ world
    | remember destination => exact ih () _
    | enter phase => exact ih () { world with phase := phase }
    | count counter amount =>
      exact ih () { world with counters := world.counters.add amount counter }
    | rest millis =>
      rw [carryOn]
      split
      · exact ih () world
      · exact ⟨rfl, waits _ fun _ => rfl⟩
    | attempt call limit =>
      simp only [carryOn]
      split
      · split
        · exact ⟨World.elapsed_settle _ _ call, fun _ same => by cases same⟩
        · obtain ⟨same, instant⟩ := ih _ (World.settle _ _ call).2
          exact ⟨same.trans (World.elapsed_settle _ _ call), instant⟩
      · split
        · exact ⟨rfl, waits _ fun later => World.elapsed_settle later _ call⟩
        · split
          · exact ih none (world.notice party call).2
          · exact ⟨rfl, waits _ fun _ => rfl⟩

namespace Loop

variable {loop : Loop} {world : World} {timeline : Timeline} {next : World × Loop}

structure IsTimed (loop : Loop) (world : World) (timeline : Timeline) : Prop where
  scheduler : timeline.scheduler = loop.scheduler
  clock : timeline.clock = world.elapsed
  paused : ∀ paused, loop.underWay = some paused →
    loop.scheduler.stage = .cycling ∧ paused.IsInstant

theorem elapsed_publish (loop : Loop) (world : World) :
    (loop.publish world).elapsed = world.elapsed := by
  rw [publish]
  split <;> rfl

theorem quiet_of_rests (rests : loop.step? world = none) :
    (∃ paused, loop.underWay = some paused ∧ world.elapsed < paused.time) ∨
      loop.underWay = none ∧ loop.scheduler.poll world.elapsed = loop.scheduler := by
  rw [step?] at rests
  cases underWay : loop.underWay with
  | some paused =>
    simp only [underWay] at rests
    split at rests
    · cases rests
    · rename_i early
      exact Or.inl ⟨paused, rfl, Nat.lt_of_not_le early⟩
  | none =>
    refine Or.inr ⟨rfl, ?_⟩
    simp only [underWay] at rests
    cases stage : loop.scheduler.stage with
    | built | returned | cycling =>
      exact Scheduler.poll_of_not_isIdle (by rw [stage]; rfl) _
    | starting | waiting delay deadline =>
      simp only [stage] at rests
      split at rests
      · assumption
      · cases rests

theorem lt_of_wakes (rests : loop.step? world = none) {wake : Nat}
    (wakes : loop.wakes? = some wake) : world.elapsed < wake := by
  rw [wakes?] at wakes
  rcases quiet_of_rests rests with ⟨paused, underWay, early⟩ | ⟨free, quiet⟩
  · simp only [underWay, Option.some.injEq] at wakes
    exact wakes ▸ early
  · simp only [free] at wakes
    rw [Scheduler.deadline?] at wakes
    split at wakes
    · rename_i delay deadline waiting
      obtain ⟨⟨_, _, same, early⟩, _⟩ := Scheduler.waits_of_quiet (by rw [waiting]; rfl) quiet
      rw [waiting] at same
      cases same
      cases wakes
      exact early
    · cases wakes

theorem whole_of_follow {came : World × Progress Cycle.Outcome}
    (whole : (loop.follow came).2.crash = none) : loop.crash = none := by
  obtain ⟨after, outcome | cause | paused⟩ := came
  · exact whole
  · cases whole
  · exact whole

theorem whole_of_step (steps : loop.step? world = some next) (whole : next.2.crash = none) :
    loop.crash = none := by
  rcases cases_of_step steps with ⟨paused, _, rfl⟩ | ⟨_, _, rfl⟩ | ⟨_, _, rfl⟩
  · exact whole_of_follow whole
  · exact whole_of_follow whole
  · exact whole

theorem whole_of_react {fuel : Nat} (whole : (loop.react fuel world).2.crash = none) :
    loop.crash = none := by
  induction fuel generalizing loop world with
  | zero => cases whole
  | succ left ih =>
    rw [react] at whole
    split at whole
    · rename_i next changed steps
      exact whole_of_step steps (ih whole)
    · exact whole

theorem rests_of_react {fuel : Nat} (whole : (loop.react fuel world).2.crash = none) :
    (loop.react fuel world).2.step? (loop.react fuel world).1 = none := by
  induction fuel generalizing loop world with
  | zero => cases whole
  | succ left ih =>
    rw [react] at whole ⊢
    split
    · rename_i next changed steps
      simp only [steps] at whole
      exact ih whole
    · assumption

namespace IsTimed

variable (timed : loop.IsTimed world timeline)
include timed

theorem follow {came : World × Progress Cycle.Outcome} (cycling : loop.scheduler.stage = .cycling)
    (same : came.1.elapsed = world.elapsed)
    (instant : ∀ paused, came.2 = .paused paused → paused.IsInstant)
    (whole : (loop.follow came).2.crash = none) :
    ∃ later, timeline.Runs later ∧ (loop.follow came).2.IsTimed (loop.follow came).1 later := by
  have clock : timeline.clock = came.1.elapsed := timed.clock.trans same.symm
  obtain ⟨after, outcome | cause | paused⟩ := came
  case finished =>
    refine ⟨_, .single (.ends timeline outcome (timed.scheduler ▸ cycling)), ?_⟩
    constructor
    case scheduler => rw [Timeline.finish, timed.scheduler, clock]; rfl
    case clock => exact clock.trans (loop.elapsed_publish after).symm
    case paused => exact fun paused waits => by cases waits
  case crashed => cases whole
  case paused =>
    refine ⟨timeline, .refl, timed.scheduler, clock, fun other waits => ?_⟩
    obtain rfl : paused = other := Option.some.inj waits
    exact ⟨cycling, instant paused rfl⟩

theorem step (steps : loop.step? world = some next) (whole : next.2.crash = none) :
    ∃ later, timeline.Runs later ∧ next.2.IsTimed next.1 later := by
  rcases cases_of_step steps with ⟨paused, underWay, rfl⟩ | ⟨_, cycling, rfl⟩ | ⟨_, idle, rfl⟩
  · obtain ⟨cycling, instant⟩ := timed.paused paused underWay
    obtain ⟨same, later⟩ := instant_carryOn .job (paused.wake world).1 (paused.wake world).2
    exact timed.follow cycling (same.trans (instant world)) later whole
  · obtain ⟨same, later⟩ := instant_carryOn .job world
      (loop.archiver.cycle patience world.now)
    exact timed.follow cycling same later whole
  · refine ⟨_, .single (.polls timeline (timed.scheduler ▸ idle)), ?_, timed.clock, ?_⟩
    · rw [Timeline.poll, timed.scheduler, timed.clock]
    · intro paused waits
      cases waits

theorem undergo (event : Scheduler.Event) :
    IsTimed { loop with scheduler := loop.scheduler.undergo event } world
      (timeline.undergo event) where
  scheduler := congrArg (·.undergo event) timed.scheduler
  clock := timed.clock
  paused paused waits := by
    obtain ⟨cycling, instant⟩ := timed.paused paused waits
    refine ⟨?_, instant⟩
    rcases loop.scheduler.stage_undergo event with same | ⟨_, built⟩
    · exact same.trans cycling
    · rw [cycling] at built
      cases built

theorem pass (rests : loop.step? world = none) (time : Nat)
    (early : ∀ wake, loop.wakes? = some wake → time ≤ wake) :
    ∃ later, timeline.Runs later ∧
      loop.IsTimed { world with elapsed := max world.elapsed time } later := by
  have quiet : timeline.scheduler.poll timeline.clock = timeline.scheduler := by
    rw [timed.scheduler, timed.clock]
    rcases quiet_of_rests rests with ⟨paused, underWay, _⟩ | ⟨_, quiet⟩
    · exact Scheduler.poll_of_not_isIdle (by rw [(timed.paused paused underWay).1]; rfl) _
    · exact quiet
  have wakes (deadline : Nat) (told : timeline.scheduler.deadline? = some deadline) :
      loop.wakes? = some deadline := by
    rw [timed.scheduler] at told
    cases underWay : loop.underWay with
    | none => rw [wakes?, underWay]; exact told
    | some paused =>
      rw [Scheduler.deadline?, (timed.paused paused underWay).1] at told
      cases told
  refine ⟨_, .single (.passes timeline (max world.elapsed time) ?_ quiet fun deadline told => ?_),
    timed.scheduler, rfl, timed.paused⟩
  · exact timed.clock ▸ Nat.le_max_left _ _
  · have later := lt_of_wakes rests (wakes deadline told)
    exact Nat.max_le.mpr ⟨Nat.le_of_lt later, early deadline (wakes deadline told)⟩

end IsTimed

theorem IsTimed.react (fuel : Nat) (timed : loop.crash = none → loop.IsTimed world timeline) :
    ∃ later, timeline.Runs later ∧ ((loop.react fuel world).2.crash = none →
      (loop.react fuel world).2.IsTimed (loop.react fuel world).1 later) := by
  induction fuel generalizing loop world timeline with
  | zero => exact ⟨timeline, .refl, fun whole => by cases whole⟩
  | succ left ih =>
    rw [Loop.react]
    split
    · rename_i next changed steps
      by_cases whole : changed.crash = none
      · obtain ⟨between, first, told⟩ := (timed (whole_of_step steps whole)).step steps whole
        obtain ⟨later, second, ended⟩ := ih fun _ => told
        exact ⟨later, first.trans second, ended⟩
      · exact ih fun other => absurd other whole
    · exact ⟨timeline, .refl, timed⟩

end Loop

namespace Scene

variable {scene : Scene} {timeline : Timeline}

/-- The loop of a scene is as a timeline tells, unless it was cut off. -/
def IsTimed (scene : Scene) (timeline : Timeline) : Prop :=
  ∀ loop, scene.loop = some loop → loop.crash = none → loop.IsTimed scene.world timeline

theorem IsTimed.undergo (timed : scene.IsTimed timeline) (event : Scheduler.Event) :
    (scene.setLoop (·.undergo event)).IsTimed (timeline.undergo event) := by
  intro loop same whole
  obtain ⟨before, held, rfl⟩ := Option.map_eq_some_iff.mp same
  exact (timed before held whole).undergo event

theorem IsTimed.react (timed : scene.IsTimed timeline) :
    ∃ later, timeline.Runs later ∧ scene.react.IsTimed later := by
  obtain ⟨world, _ | loop⟩ := scene
  · exact ⟨timeline, .refl, timed⟩
  · obtain ⟨later, runs, ended⟩ := Loop.IsTimed.react patience (timed loop rfl)
    refine ⟨later, runs, fun other same => ?_⟩
    obtain rfl := Option.some.inj same
    exact ended

/-- A loop acts at the present time, and the clock jumps no further than to where it wakes. -/
theorem IsTimed.turn (timed : scene.IsTimed timeline) (time : Nat)
    (early : ∀ wake, scene.react.loop.bind Loop.wakes? = some wake → time ≤ wake) :
    ∃ later, timeline.Runs later ∧ (scene.react.jump time).IsTimed later := by
  obtain ⟨world, _ | loop⟩ := scene
  · exact ⟨timeline, .refl, fun _ same => by cases same⟩
  · obtain ⟨between, first, told⟩ := Loop.IsTimed.react patience (timed loop rfl)
    by_cases whole : (loop.react patience world).2.crash = none
    · obtain ⟨later, second, ended⟩ := (told whole).pass (Loop.rests_of_react whole) time early
      refine ⟨later, first.trans second, fun other same _ => ?_⟩
      obtain rfl := Option.some.inj same
      exact ended
    · refine ⟨timeline, .refl, fun other same unbroken => ?_⟩
      obtain rfl := Option.some.inj same
      exact absurd unbroken whole

theorem IsTimed.wakes_later (timed : scene.IsTimed timeline) {loop : Loop}
    (held : scene.react.loop = some loop) (whole : loop.crash = none) {wake : Nat}
    (wakes : loop.wakes? = some wake) :
    ∃ before, scene.loop = some before ∧ before.crash = none ∧ scene.world.elapsed < wake := by
  obtain ⟨world, _ | before⟩ := scene
  · cases held
  · obtain rfl : (before.react patience world).2 = loop := Option.some.inj held
    have unbroken := Loop.whole_of_react whole
    obtain ⟨later, runs, ended⟩ := Loop.IsTimed.react patience (timed before rfl)
    have onward : world.elapsed ≤ (before.react patience world).1.elapsed :=
      (timed before rfl unbroken).clock ▸ (ended whole).clock ▸ runs.clock_le
    have later := Loop.lt_of_wakes (Loop.rests_of_react whole) wakes
    exact ⟨before, rfl, unbroken, Nat.lt_of_le_of_lt onward later⟩

/-- The rehearsal allows as many waits as there are milliseconds up to a time. -/
theorem IsTimed.waitUntil {time : Nat} (fuel : Nat) (timed : scene.IsTimed timeline)
    (enough : ∀ loop, scene.loop = some loop → loop.crash = none →
      time ≤ scene.world.elapsed + fuel) :
    ∃ later, timeline.Runs later ∧ (waitUntil time fuel scene).IsTimed later := by
  induction fuel generalizing scene timeline with
  | zero =>
    refine ⟨timeline, .refl, fun loop held whole => ?_⟩
    have told := timed loop held whole
    have elapsed : max scene.world.elapsed time = scene.world.elapsed :=
      Nat.max_eq_left (enough loop held whole)
    exact ⟨told.scheduler, told.clock.trans elapsed.symm, told.paused⟩
  | succ left ih =>
    rw [Scene.waitUntil]
    split
    · exact ⟨timeline, .refl, timed⟩
    · dsimp only
      split
      · rename_i wake wakes
        split
        · obtain ⟨between, first, told⟩ := timed.turn wake fun other same => by
            rw [wakes] at same
            exact Nat.le_of_eq (Option.some.inj same)
          have still : ∀ loop, (scene.react.jump wake).loop = some loop → loop.crash = none →
              time ≤ (scene.react.jump wake).world.elapsed + left := by
            intro loop held whole
            have awaited : loop.wakes? = some wake := by
              rw [show scene.react.loop = some loop from held] at wakes
              exact wakes
            obtain ⟨before, was, unbroken, further⟩ := timed.wakes_later held whole awaited
            have allowed := enough before was unbroken
            have reached : wake ≤ (scene.react.jump wake).world.elapsed := Nat.le_max_right _ _
            omega
          obtain ⟨later, second, ended⟩ := ih told still
          exact ⟨later, first.trans second, ended⟩
        · rename_i late
          refine timed.turn time fun other same => ?_
          rw [wakes] at same
          cases same
          exact Nat.le_of_not_lt late
      · rename_i never
        refine timed.turn time fun other same => ?_
        rw [never] at same
        cases same

theorem IsTimed.runOut (fuel : Nat) (timed : scene.IsTimed timeline) :
    ∃ later, timeline.Runs later ∧ (runOut fuel scene).IsTimed later := by
  induction fuel generalizing scene timeline with
  | zero => exact ⟨timeline, .refl, timed⟩
  | succ left ih =>
    rw [Scene.runOut]
    split
    · rename_i wake wakes
      obtain ⟨between, first, told⟩ := timed.turn wake fun other same => by
        rw [wakes] at same
        exact Nat.le_of_eq (Option.some.inj same)
      obtain ⟨later, second, ended⟩ := ih told
      exact ⟨later, first.trans second, ended⟩
    · exact timed.react

theorem timed_build (settings : Settings) (archiver : Archiver) (world : World) :
    IsTimed ⟨world, some (.build settings archiver)⟩
      (.build settings.archiver.enabled settings.archiver.pacing world.elapsed) := by
  intro loop same whole
  cases same
  exact ⟨rfl, rfl, fun _ waits => by cases waits⟩

theorem timed_runLoop (settings : Settings) (archiver : Archiver) (stopAfter : Option Nat)
    (world : World) (brief : ∀ delay, stopAfter = some delay → delay ≤ patience) :
    ∃ later, (Timeline.build settings.archiver.enabled settings.archiver.pacing
      world.elapsed).Runs later ∧
        (runLoop settings archiver stopAfter world).1.IsTimed later := by
  have built := timed_build settings archiver world
  cases stopAfter with
  | none =>
    obtain ⟨later, runs, ended⟩ := ((built.undergo .cancel).undergo .start).runOut patience
    refine ⟨later, .trans ?_ runs, ended⟩
    exact (Relation.ReflTransGen.single (.undergoes _ .cancel trivial)).tail
      (.undergoes _ .start rfl)
  | some delay =>
    obtain ⟨started, starts, told⟩ := (built.undergo .start).react
    have starts := starts.head (.undergoes (Timeline.build ..) .start rfl)
    simp only [runLoop]
    split
    · exact ⟨started, starts, told⟩
    · obtain ⟨waited, waits, due⟩ := told.waitUntil patience fun _ _ _ =>
        Nat.add_le_add_left (brief delay rfl) _
      obtain ⟨later, runs, ended⟩ := (due.undergo .cancel).runOut patience
      exact ⟨later, (starts.trans waits).trans (runs.head (.undergoes _ .cancel trivial)), ended⟩

end Scene

end Rehearsal

end Archivist
