import Archivist.Cluster.Client
import Archivist.Metrics.Textfile
import Archivist.Scheduler

set_option autoImplicit false

namespace Archivist

inductive ServiceFailure where
  | store (cause : Cluster.ConnectFailure)
  | setup (fault : SettingsFault)
  | publication (failure : PublishFailure)
  | cycle (failure : CycleFailure)
  | crash (cause : Crash)
deriving Repr, DecidableEq

namespace ServiceFailure

def chain : ServiceFailure → List String
  | .store cause => "💀 Failed to build the record store from config" :: cause.chain
  | .setup fault => [fault.message]
  | .publication failure => [failure.message]
  | .cycle failure =>
    "💀 The archive cycle aborted. Whatever moved before the failure stays moved."
      :: failure.message :: failure.causes
  | .crash _ => []

def networkReasons : ServiceFailure → List String
  | .store (.silent _ reason) => [reason]
  | _ => []

end ServiceFailure

structure Surroundings (Place : Type → Type) where
  deliver : Cluster.Request → Place Cluster.Delivery
  /-- One cycle of an archiver over the store of its settings. -/
  cycle : StoreSettings → Archiver → Place (Except Crash Cycle.Outcome)
  /-- Cycles of an archiver until it is told to stop. -/
  loop : Settings → Archiver → Place (Except Crash Unit)
  /-- Writes the counts to a metrics file. -/
  publish : String → Place (Except PublishFailure Unit)
  counters : Place Counters

namespace Service

variable {Place : Type → Type} [Monad Place]

def setUp (surroundings : Surroundings Place) (settings : Settings) :
    Place (Except ServiceFailure Archiver) := do
  let opened ←
    match settings.store with
    | .memory => pure (.ok (.ok ()))
    | .cluster cluster => (Cluster.connect cluster).interpret surroundings.deliver
  return match opened with
    | .error cause => .error (.crash cause)
    | .ok (.error cause) => .error (.store cause)
    | .ok (.ok ()) =>
      match settings.archiver? with
      | .ok archiver => .ok archiver
      | .error (.fault fault) => .error (.setup fault)
      | .error (.crash cause) => .error (.crash cause)

/-- A single cycle. The counts are published whether it succeeded or not, and a failure to do so
comes before a failure of the cycle. -/
def once (surroundings : Surroundings Place) (settings : Settings) :
    Place (Except ServiceFailure Nat) := do
  match ← setUp surroundings settings with
  | .error failure => return .error failure
  | .ok archiver =>
    match ← surroundings.cycle settings.store archiver with
    | .error cause => return .error (.crash cause)
    | .ok outcome =>
      let published ←
        match settings.archiver.metricsFile with
        | some path => surroundings.publish path
        | none => pure (.ok ())
      return match published, outcome with
        | .error failure, _ => .error (.publication failure)
        | .ok (), .error failure => .error (.cycle failure)
        | .ok (), .ok archived => .ok archived

/-- Cycles until the archiver is told to stop. -/
def run (surroundings : Surroundings Place) (settings : Settings) :
    Place (Except ServiceFailure Unit) := do
  match ← setUp surroundings settings with
  | .error failure => return .error failure
  | .ok archiver =>
    match ← surroundings.loop settings archiver with
    | .error cause => return .error (.crash cause)
    | .ok () => return .ok ()

end Service

end Archivist
