import Archivist.CommandLine
import Archivist.Store.Memory
import Std.Time.DateTime.Timestamp

set_option autoImplicit false

namespace Archivist.Main

open Calendar (Instant)

/-- What the program holds on to between two cycles. -/
structure Held where
  store : MemoryStore
  counters : Counters
  remembered : List String

/-- A place with a store in memory and what the machine offers. -/
abbrev Place := StateT Held IO

def patience : Nat := 1000000000

def present : IO Instant := do
  let now ← Std.Time.Timestamp.now
  return .ofSeconds now.toSecondsSinceUnixEpoch.val

def callStore (settings : StoreSettings) (call : Call) : Place (Option call.Reply) :=
  match settings with
  | .memory => modifyGet fun held =>
    let answered := held.store.handle call
    (some answered.1, { held with store := answered.2 })
  | .cluster cluster => do
    match ← (Cluster.perform cluster call).interpret fun request =>
        (return Cluster.offline request : Place Cluster.Delivery) with
    | .ok reply => return some reply
    | .error _ => return none

def act (settings : StoreSettings) : (action : Action) → Place action.Yield
  | .attempt call _ => callStore settings call
  | .rest millis => IO.sleep millis.toUInt32
  | .recalls destination => return (← get).remembered.contains destination
  | .remember destination =>
    modify fun held => { held with remembered := destination :: held.remembered }
  | .enter _ => return ()
  | .count counter amount =>
    modify fun held => { held with counters := held.counters.add amount counter }

def cycle (settings : StoreSettings) (archiver : Archiver) :
    Place (Except Crash Cycle.Outcome) := do
  (archiver.cycle patience (← present)).interpret (act settings)

/-- Whether something was done without a fault of the machine. -/
def succeeds (action : IO Unit) : IO Bool := do
  try
    action
    return true
  catch _ => return false

def publish (path : String) : Place (Except PublishFailure Unit) := do
  let staging : String := stagingPath path
  if !(← succeeds (IO.FS.writeFile staging (← get).counters.exposition)) then
    return .error (.write staging)
  else if !(← succeeds (IO.FS.rename staging path)) then return .error (.move path)
  else return .ok ()

/-- Follows a scheduler until it returns; nobody asks it for anything. -/
partial def follow (settings : Settings) (archiver : Archiver) (scheduler : Scheduler) :
    Place (Except Crash Unit) := do
  match scheduler.stage with
  | .returned => return .ok ()
  | .built => follow settings archiver scheduler.start
  | .starting => follow settings archiver (scheduler.poll (← IO.monoMsNow))
  | .waiting _ deadline =>
    IO.sleep (deadline - (← IO.monoMsNow)).toUInt32
    follow settings archiver (scheduler.poll (← IO.monoMsNow))
  | .cycling =>
    match ← cycle settings.store archiver with
    | .error cause => return .error cause
    | .ok outcome =>
      if let some path := settings.archiver.metricsFile then
        let _ ← publish path
      follow settings archiver (scheduler.cycleEnded (← IO.monoMsNow) outcome)

def surroundings : Surroundings Place where
  deliver request := return Cluster.offline request
  cycle := cycle
  loop settings archiver :=
    follow settings archiver (.build settings.archiver.enabled settings.archiver.pacing)
  publish := publish
  counters := return (← get).counters

def lookUp (path : String) : Place (Except Obstacle FileEntry) := do
  try return .ok (.file (← IO.FS.readFile path))
  catch
    | .noFileOrDirectory .. => return .error .missing
    | .inappropriateType .. => return .ok .directory
    | _ => return .error .blocked

def environment : IO (List (String × String)) := do
  let content ← try IO.FS.readFile "/proc/self/environ" catch _ => pure ""
  let entries := (Text.splitAt (Char.ofNat 0) content.toList).map fun entry =>
    (String.ofList (entry.takeWhile (· ≠ '=')), String.ofList ((entry.dropWhile (· ≠ '=')).drop 1))
  return entries.foldl (fun sorted entry => Json.insertMember entry.1 entry.2 sorted) []

end Archivist.Main

def main (arguments : List String) : IO UInt32 := do
  let (report, _) ← (Archivist.CommandLine.execute Archivist.Main.surroundings
    Archivist.Main.lookUp (← Archivist.Main.environment) arguments).run ⟨.empty, .zero, []⟩
  for error in report.errors do
    IO.eprintln error
  IO.print report.printed
  return report.exitCode.toUInt32
