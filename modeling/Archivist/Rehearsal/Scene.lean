import Archivist.Rehearsal.World

set_option autoImplicit false

namespace Archivist.Rehearsal

/-- The turns, waits and reactions that a rehearsal allows before it gives up. -/
def patience : Nat := 1000000

/-- A scheduler's loop and the archiver whose cycles it starts. -/
structure Loop where
  archiver : Archiver
  metricsFile : Option String
  scheduler : Scheduler
  /-- The cycle that has begun and waits. -/
  underWay : Option (Paused Cycle.Outcome)
  /-- Why a cycle crashed and took the loop with it, so that it has returned. -/
  crash : Option Crash

namespace Loop

def build (settings : Settings) (archiver : Archiver) : Loop where
  archiver := archiver
  metricsFile := settings.archiver.metricsFile
  scheduler := .build settings.archiver.enabled settings.archiver.pacing
  underWay := none
  crash := none

/-- The counts are published after every cycle; a file that cannot be written stops nothing. -/
def publish (loop : Loop) (world : World) : World :=
  match loop.metricsFile with
  | some path => { world with files := (world.counters.publish path world.files).2 }
  | none => world

/-- Takes note of how far a cycle has come. -/
def follow (loop : Loop) : World × Progress Cycle.Outcome → World × Loop
  | (world, .paused paused) => (world, { loop with underWay := some paused })
  | (world, .finished outcome) =>
    (loop.publish world,
      { loop with
        underWay := none
        scheduler := loop.scheduler.cycleEnded world.elapsed outcome })
  | (world, .crashed cause) =>
    (world,
      { loop with
        underWay := none
        scheduler := { loop.scheduler with stage := .returned }
        crash := some cause })

def step? (loop : Loop) (world : World) : Option (World × Loop) :=
  match loop.underWay with
  | some paused =>
    if paused.time ≤ world.elapsed then
      let woken := paused.wake world
      some (loop.follow (carryOn .job woken.1 woken.2))
    else none
  | none =>
    match loop.scheduler.stage with
    | .cycling => some (loop.follow (carryOn .job world (loop.archiver.cycle patience world.now)))
    | .starting | .waiting .. =>
      let polled := loop.scheduler.poll world.elapsed
      if polled = loop.scheduler then none else some (world, { loop with scheduler := polled })
    | .built | .returned => none

/-- Lets the loop act as long as it has something to do at the present time. -/
def react : Nat → Loop → World → World × Loop
  | 0, loop, world => loop.follow (world, .crashed .exhausted)
  | fuel + 1, loop, world =>
    match loop.step? world with
    | some (world, loop) => react fuel loop world
    | none => (world, loop)

def wakes? (loop : Loop) : Option Nat :=
  match loop.underWay with
  | some paused => some paused.time
  | none => loop.scheduler.deadline?

end Loop

structure Scene where
  world : World
  loop : Option Loop

namespace Scene

def react (scene : Scene) : Scene :=
  match scene.loop with
  | some loop =>
    let reacted := loop.react patience scene.world
    ⟨reacted.1, some reacted.2⟩
  | none => scene

/-- The clock jumps forward, never back. -/
def jump (scene : Scene) (time : Nat) : Scene :=
  { scene with world := { scene.world with elapsed := max scene.world.elapsed time } }

def setLoop (scene : Scene) (change : Scheduler → Scheduler) : Scene :=
  { scene with
    loop := scene.loop.map fun loop => { loop with scheduler := change loop.scheduler } }

/-- The loop acts whenever it wakes before a time. The fuel bounds how often it does. -/
def waitUntil (time : Nat) : Nat → Scene → Scene
  | 0, scene => scene.jump time
  | fuel + 1, scene =>
    if time ≤ scene.world.elapsed then scene
    else
      let scene := scene.react
      match scene.loop.bind Loop.wakes? with
      | some wake => if wake < time then waitUntil time fuel (scene.jump wake) else scene.jump time
      | none => scene.jump time

/-- The loop acts until it has nothing left to wait for. -/
def runOut : Nat → Scene → Scene
  | 0, scene => scene
  | fuel + 1, scene =>
    let scene := scene.react
    match scene.loop.bind Loop.wakes? with
    | some wake => runOut fuel (scene.jump wake)
    | none => scene

/-- Runs the loop of some settings until it is told to stop: before it begins, or after a time.
Yields how many milliseconds that took. -/
def runLoop (settings : Settings) (archiver : Archiver) (stopAfter : Option Nat) (world : World) :
    Scene × Nat :=
  let scene : Scene := ⟨world, some (.build settings archiver)⟩
  match stopAfter with
  | none => (runOut patience ((scene.setLoop Scheduler.cancel).setLoop Scheduler.start), 0)
  | some delay =>
    let started := (scene.setLoop Scheduler.start).react
    if (started.loop.bind Loop.wakes?).isNone then (started, 0)
    else
      let waited := waitUntil (started.world.elapsed + delay) patience started
      let stopped := runOut patience (waited.setLoop Scheduler.cancel)
      (stopped, stopped.world.elapsed - world.elapsed)

/-- Carries some work to its end; the clock jumps over every wait. The fuel bounds the waits. -/
def perform {Result : Type} (party : Party) :
    Nat → Scene → Work Result → Scene × Except Crash Result
  | 0, scene, _ => (scene, .error .exhausted)
  | fuel + 1, scene, work =>
    match carryOn party scene.world work with
    | (world, .finished result) => ({ scene with world := world }, .ok result)
    | (world, .crashed cause) => ({ scene with world := world }, .error cause)
    | (world, .paused paused) =>
      let scene := waitUntil paused.time patience { scene with world := world }
      let woken := paused.wake scene.world
      perform party fuel { scene with world := woken.1 } woken.2

end Scene

end Archivist.Rehearsal
