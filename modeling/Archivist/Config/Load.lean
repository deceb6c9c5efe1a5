import Archivist.Config.Environment
import Archivist.Config.Schema
import Archivist.Config.Toml

set_option autoImplicit false

namespace Archivist

open Config (Problem)

inductive LoadFailure where
  /-- What was written are no settings; a file was asked for or not. -/
  | unreadable (path : Option String) (problem : Problem)
  | invalid (fault : SettingsFault)
deriving Repr, DecidableEq

def LoadFailure.message : LoadFailure → String
  | .unreadable (some path) _ =>
    "💀 Failed to parse configuration from file '" ++ path
      ++ "' and environment variables (ARX_*). The file exists in our hearts, but apparently not in a shape serde likes."
  | .unreadable none _ =>
    "💀 Failed to parse configuration from environment variables (ARX_*). No file was provided — this one's all on the environment. Classic."
  | .invalid fault => fault.message

/-- A settings file by its path. One that does not exist says nothing. -/
structure SettingsFile where
  path : String
  content : Option String
deriving Repr, DecidableEq

namespace Settings

def written (file : Option SettingsFile) (environment : List (String × String)) :
    Except Problem Config.Tree :=
  let base := Config.Environment.tree environment
  match file.bind (·.content) with
  | none => .ok base
  | some content =>
    match Config.Toml.read content with
    | some tree => .ok (base.overlay tree)
    | none => .error ⟨.malformed, []⟩

def load (file : Option SettingsFile) (environment : List (String × String)) :
    Except LoadFailure Settings :=
  match written file environment >>= Config.Schema.settings .layers [] with
  | .error problem => .error (.unreadable (file.map (·.path)) problem)
  | .ok settings =>
    match settings.fault? with
    | some fault => .error (.invalid fault)
    | none => .ok settings

end Settings

end Archivist
