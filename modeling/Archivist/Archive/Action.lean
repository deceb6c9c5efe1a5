import Archivist.Dialogue
import Archivist.Failure
import Archivist.Metrics.Counters
import Archivist.Retry
import Archivist.Store.Record

set_option autoImplicit false

namespace Archivist

inductive Phase where
  | idle
  | fetching
  | moving
  | success
  | failed
deriving Repr, DecidableEq

def Phase.name : Phase → String
  | .idle => "Idle"
  | .fetching => "Fetching"
  | .moving => "Moving"
  | .success => "Success"
  | .failed => "Failed"

inductive Action where
  /-- A call to the store that is given up after a number of milliseconds. -/
  | attempt (call : Call) (limit : Nat)
  /-- A pause of a number of milliseconds. -/
  | rest (millis : Nat)
  /-- Whether a destination was found or made before. -/
  | recalls (destination : String)
  | remember (destination : String)
  | enter (phase : Phase)
  | count (counter : Counter) (amount : Nat)

namespace Action

/-- What an action yields. An attempt that was given up yields nothing. -/
abbrev Yield : Action → Type
  | .attempt call _ => Option call.Reply
  | .recalls _ => Bool
  | .rest _ | .remember _ | .enter _ | .count .. => Unit

end Action

abbrev Work (Result : Type) : Type := Dialogue Action.Yield Result

namespace Work

def enter (phase : Phase) : Work Unit := Dialogue.question (Action.enter phase)

def count (counter : Counter) (amount : Nat) : Work Unit :=
  Dialogue.question (Action.count counter amount)

/-- A call that is made again after transient failures. The step names the call in the text of a
failure to answer in time. -/
def call (policy : RetryPolicy) (step : String) (call : Call) : Work call.Reply :=
  policy.run step (.question (Action.attempt call policy.requestTimeout)) fun millis =>
    .question (Action.rest millis)

end Work

end Archivist
