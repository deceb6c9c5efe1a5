import Archivist.CommandLine.Help
import Archivist.Config.Load
import Archivist.Service

set_option autoImplicit false

namespace Archivist.CommandLine

structure Report where
  exitCode : Nat
  printed : String
  errors : List String
deriving Repr, DecidableEq

def networkSigns : List String :=
  ["error sending request", "connection refused", "Connection refused", "tcp connect error",
    "dns error"]

def hint : String :=
  "🔧 hint: looks like Elasticsearch isn't reachable. Double-check the store URL and that the cluster is actually running. If you're using Docker, try `docker ps` to see what's up, or `docker compose up -d` to resurrect it. ☕"

/-- A failure is told by its outermost text, with a hint when the network seems to lie behind it. -/
def failureReport (failure : ServiceFailure) : Report :=
  match failure.chain with
  | [] => ⟨101, "", []⟩
  | outermost :: causes =>
    let isNetwork := (causes ++ failure.networkReasons).any fun cause =>
      networkSigns.any fun sign => Text.isWithin sign cause
    ⟨1, "", ("💀 error: " ++ outermost) :: if isNetwork then [hint] else []⟩

def scoreboard (form : Counters.Form) (counters : Counters) : Report :=
  ⟨0, counters.render 0 form ++ "\n", []⟩

section Execute

variable {Place : Type → Type} [Monad Place]

def perform (surroundings : Surroundings Place) (settings : Settings) (invocation : Invocation) :
    Place Report := do
  let outcome ←
    match invocation.command with
    | .once => do
      let outcome ← Service.once surroundings settings
      pure (outcome.map fun _ => ())
    | .run => Service.run surroundings settings
  match outcome with
  | .error failure => return failureReport failure
  | .ok () => return scoreboard invocation.form (← surroundings.counters)

/-- The settings file at the end of a path, if there is anything; a directory is none with
content. -/
def settingsFile? (path : String) :
    Except Obstacle FileEntry → Except Obstacle (Option SettingsFile)
  | .ok (.file content) => .ok (some ⟨path, some content⟩)
  | .ok .directory => .ok (some ⟨path, none⟩)
  | .error .missing => .ok none
  | .error .blocked => .error .blocked

/-- Does what the arguments ask for. The settings file need not exist, but a path that cannot be
followed is an error. -/
def execute (surroundings : Surroundings Place)
    (lookUp : String → Place (Except Obstacle FileEntry))
    (environment : List (String × String)) (arguments : List String) : Place Report := do
  match parse arguments with
  | .error aside => return ⟨aside.exitCode, aside.text, []⟩
  | .ok invocation =>
    match settingsFile? invocation.config (← lookUp invocation.config) with
    | .error _ => return ⟨1, "", []⟩
    | .ok file =>
      match Settings.load file environment with
      | .error _ => return ⟨1, "", []⟩
      | .ok settings => perform surroundings settings invocation

end Execute

end Archivist.CommandLine
