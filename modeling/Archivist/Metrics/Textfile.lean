import Archivist.Files.Tree
import Archivist.Metrics.Counters

set_option autoImplicit false

namespace Archivist

/-- Which step of publishing a metrics file failed. -/
inductive PublishFailure where
  | write (staging : String)
  | move (path : String)
deriving Repr, DecidableEq

def PublishFailure.message : PublishFailure → String
  | .write staging => "💀 Couldn't write metrics to '" ++ staging ++ "'"
  | .move path => "💀 Couldn't move metrics into place at '" ++ path ++ "'"

def stagingPath (path : String) : String := FilePath.withExtension path "prom.tmp"

/-- Writes the counts beside their place and moves them there. -/
def Counters.publish (counters : Counters) (path : String) (tree : FileTree) :
    Except PublishFailure Unit × FileTree :=
  match tree.write (stagingPath path) counters.exposition with
  | none => (.error (.write (stagingPath path)), tree)
  | some written =>
    match written.rename (stagingPath path) path with
    | none => (.error (.move path), written)
    | some moved => (.ok (), moved)

end Archivist
