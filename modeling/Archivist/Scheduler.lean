import Archivist.Config.Settings

set_option autoImplicit false

namespace Archivist

/-- How long to wait after a cycle, in milliseconds. -/
structure Pacing where
  idle : Nat
  busy : Nat
  error : Nat
deriving Repr, DecidableEq

def ArchiverSettings.pacing (settings : ArchiverSettings) : Pacing :=
  ⟨settings.idleDelay, settings.busyDelay, settings.errorDelay⟩

/-- The delay depends on whether a cycle found something to do, found nothing, or failed. -/
def Pacing.after (pacing : Pacing) : Cycle.Outcome → Nat
  | .ok 0 => pacing.idle
  | .ok _ => pacing.busy
  | .error _ => pacing.error

/-- How many roots a cycle moved, whether it ended well or not. -/
def Cycle.moved : Cycle.Outcome → Nat
  | .ok archived => archived
  | .error failure => failure.archivedBefore

namespace Scheduler

inductive Stage where
  | built
  /-- Started, but it has not come to act yet. -/
  | starting
  | cycling
  | waiting (delay deadline : Nat)
  | returned
deriving Repr, DecidableEq

end Scheduler

/-- The loop that starts cycles, together with what those who hold its handle have asked for. -/
structure Scheduler where
  enabled : Bool
  pacing : Pacing
  cancelled : Bool
  /-- A cycle was asked for, and the loop has not yet taken note. -/
  triggered : Bool
  handleHeld : Bool
  /-- The loop stops listening when it finds that nobody can ask for a cycle any more. -/
  listening : Bool
  stage : Scheduler.Stage
  archived : Nat
deriving Repr, DecidableEq

namespace Scheduler

def build (enabled : Bool) (pacing : Pacing) : Scheduler :=
  ⟨enabled, pacing, false, false, true, true, .built, 0⟩

/-- Asks for a cycle. Requests that come before the loop takes note are one request; once the loop
has returned there is nobody to ask. -/
def trigger (scheduler : Scheduler) : Bool × Scheduler :=
  if scheduler.stage = .returned then (false, scheduler)
  else (true, { scheduler with triggered := true })

def cancel (scheduler : Scheduler) : Scheduler := { scheduler with cancelled := true }

def dropHandle (scheduler : Scheduler) : Scheduler := { scheduler with handleHeld := false }

/-- Begins the next cycle, unless the loop is to stop. -/
def proceed (scheduler : Scheduler) : Scheduler :=
  { scheduler with stage := if scheduler.cancelled then .returned else .cycling }

/-- A loop is started once. -/
def start (scheduler : Scheduler) : Scheduler :=
  if scheduler.stage = .built then { scheduler with stage := .starting } else scheduler

/-- A cycle has ended at a time in milliseconds; the loop waits. -/
def cycleEnded (scheduler : Scheduler) (now : Nat) (outcome : Cycle.Outcome) : Scheduler :=
  let delay := scheduler.pacing.after outcome
  { scheduler with
    stage := .waiting delay (now + delay)
    archived := scheduler.archived + Cycle.moved outcome }

/-- What the loop does when it comes to act outside of a cycle. A loop that is not enabled returns
at once. For one that waits, stopping comes before a request for a cycle, and that before the end of
the delay; when the last handle is gone the delay begins anew. -/
def poll (scheduler : Scheduler) (now : Nat) : Scheduler :=
  match scheduler.stage with
  | .starting =>
    if scheduler.enabled then scheduler.proceed else { scheduler with stage := .returned }
  | .waiting delay deadline =>
    if scheduler.cancelled then { scheduler with stage := .returned }
    else if scheduler.listening && scheduler.triggered then
      { scheduler with triggered := false }.proceed
    else if scheduler.listening && !scheduler.handleHeld then
      { scheduler with listening := false, stage := .waiting delay (now + delay) }
    else if deadline ≤ now then scheduler.proceed
    else scheduler
  | _ => scheduler

/-- The time at which a waiting loop looks around by itself. -/
def deadline? (scheduler : Scheduler) : Option Nat :=
  match scheduler.stage with
  | .waiting _ deadline => some deadline
  | _ => none

end Scheduler

end Archivist
