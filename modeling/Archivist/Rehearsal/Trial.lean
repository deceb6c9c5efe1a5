import Archivist.Retry

set_option autoImplicit false

namespace Archivist.Rehearsal

/-- How long an attempt takes, in milliseconds, and what it comes to. -/
structure Attempt (Result : Type) where
  delay : Nat
  outcome : Except StoreFailure Result

inductive TrialStep where
  | attempt
  | rest (millis : Nat)
deriving Repr, DecidableEq

abbrev TrialStep.Yield (Result : Type) : TrialStep → Type
  | .attempt => Option (Except StoreFailure Result)
  | .rest _ => Unit

/-- The time, the attempts still to come, and when each so far began, the last one first. -/
structure Trial (Result : Type) where
  elapsed : Nat
  upcoming : List (Attempt Result)
  starts : List Nat

namespace Trial

variable {Result : Type}

/-- An attempt that takes longer than the limit gives no answer. Past the last one there is an
attempt that gives a fallback at once. -/
def answer (limit : Nat) (fallback : Result) :
    (step : TrialStep) → StateM (Trial Result) (step.Yield Result)
  | .rest millis => modify fun trial => { trial with elapsed := trial.elapsed + millis }
  | .attempt => modifyGet fun trial =>
    let attempt := trial.upcoming.head?.getD ⟨0, .ok fallback⟩
    let upcoming := trial.upcoming.drop 1
    let starts := trial.elapsed :: trial.starts
    if attempt.delay ≤ limit then
      (some attempt.outcome, ⟨trial.elapsed + attempt.delay, upcoming, starts⟩)
    else (none, ⟨trial.elapsed + limit, upcoming, starts⟩)

def run (policy : RetryPolicy) (step : String) (attempts : List (Attempt Result))
    (fallback : Result) : Except Crash (Except StoreFailure Result) × Trial Result :=
  let work : Dialogue (TrialStep.Yield Result) (Except StoreFailure Result) :=
    policy.run step (.question TrialStep.attempt) fun millis => .question (TrialStep.rest millis)
  (work.interpret (answer policy.requestTimeout fallback)).run ⟨0, attempts, []⟩

end Trial

end Archivist.Rehearsal
