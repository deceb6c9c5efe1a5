import Archivist.Files.Path

set_option autoImplicit false

namespace Archivist

/-- A place in a tree or in the directories above it: so many directories up, and then the names on
the way down. -/
structure Location where
  above : Nat
  names : List String
deriving Repr, DecidableEq

namespace Location

def top : Location := ⟨0, []⟩

def child (location : Location) (name : String) : Location :=
  { location with names := location.names ++ [name] }

def parent (location : Location) : Location :=
  match location.names with
  | [] => { location with above := location.above + 1 }
  | names => { location with names := names.dropLast }

end Location

structure FileTree where
  directories : List Location
  files : List (Location × String)
deriving Repr

inductive FileEntry where
  | directory
  | file (content : String)
deriving Repr, DecidableEq

/-- Why nothing was found at the end of a path. -/
inductive Obstacle where
  /-- A name on the way is not there. -/
  | missing
  /-- The way goes through a file, or no path can be like this. -/
  | blocked
deriving Repr, DecidableEq

namespace FileTree

def empty : FileTree := ⟨[], []⟩

/-- The directories above the tree are there as well. -/
def entry? (tree : FileTree) (location : Location) : Option FileEntry :=
  if location.names = [] ∨ tree.directories.contains location then some .directory
  else (tree.files.find? (·.1 = location)).map fun file => .file file.2

def isDirectory (tree : FileTree) (location : Location) : Bool :=
  tree.entry? location = some .directory

def below (location : Location) (name : String) : Except Obstacle Location :=
  if FilePath.longestName < name.utf8ByteSize then .error .blocked else .ok (location.child name)

def walk (tree : FileTree) (here : Location) : List String → Except Obstacle Location
  | [] => .ok here
  | part :: rest =>
    if part = "." then tree.walk here rest
    else if part = ".." then tree.walk here.parent rest
    else
      match below here part with
      | .error obstacle => .error obstacle
      | .ok next =>
        match tree.entry? next with
        | some .directory => tree.walk next rest
        | some (.file _) => .error .blocked
        | none => .error .missing

/-- The parts of a path that is looked up in this tree. Nothing is known of other trees. -/
def partsOf (path : String) : Except Obstacle (List String) :=
  if !FilePath.isPossible path then .error .blocked
  else if path = "" ∨ (FilePath.read path).absolute then .error .missing
  else .ok (FilePath.read path).parts

/-- The place that a path names by its last part; all parts before it lead through directories. -/
def namedPlace (tree : FileTree) (path : String) : Except Obstacle Location := do
  let parts ← partsOf path
  match parts.getLast? with
  | none | some "." | some ".." => .error .blocked
  | some name => below (← tree.walk .top parts.dropLast) name

/-- What stands at the end of a path. A path to a file does not end in a slash. -/
def lookUp (tree : FileTree) (path : String) : Except Obstacle FileEntry := do
  let parts ← partsOf path
  match parts.getLast? with
  | none | some "." | some ".." => (tree.walk .top parts).map fun _ => .directory
  | some _ =>
    match tree.entry? (← tree.namedPlace path) with
    | none => .error .missing
    | some (.file content) =>
      if (FilePath.read path).trailingSlash then .error .blocked else .ok (.file content)
    | some .directory => .ok .directory

def read? (tree : FileTree) (path : String) : Option String :=
  match tree.lookUp path with
  | .ok (.file content) => some content
  | _ => none

/-- The place where a file can be under the last name of a path: no directory is there. -/
def filePlace? (tree : FileTree) (path : String) : Option Location :=
  match tree.namedPlace path with
  | .error _ => none
  | .ok location =>
    if tree.isDirectory location ∨ (FilePath.read path).trailingSlash then none else some location

def write (tree : FileTree) (path content : String) : Option FileTree :=
  (tree.filePlace? path).map fun location =>
    { tree with files := tree.files.filter (·.1 ≠ location) ++ [(location, content)] }

/-- Moves a file to another place, over a file that is there. -/
def rename (tree : FileTree) (source destination : String) : Option FileTree := do
  let old ← tree.filePlace? source
  let new ← tree.filePlace? destination
  let file ← tree.files.find? (·.1 = old)
  return { tree with
    files := tree.files.filter (fun other => other.1 ≠ old ∧ other.1 ≠ new) ++ [(new, file.2)] }

/-- Makes the directories that a path goes through, up to a file that stands in the way. -/
def makeDirectory (tree : FileTree) (path : String) : FileTree :=
  go tree .top (FilePath.read path).parts
where
  go (tree : FileTree) (here : Location) : List String → FileTree
    | [] => tree
    | part :: rest =>
      if part = "." then go tree here rest
      else if part = ".." then go tree here.parent rest
      else
        let next := here.child part
        match tree.entry? next with
        | some .directory => go tree next rest
        | some (.file _) => tree
        | none => go { tree with directories := tree.directories ++ [next] } next rest

def insertText (text : String) : List String → List String
  | [] => [text]
  | other :: rest => if text < other then text :: other :: rest else other :: insertText text rest

/-- Every path in the tree in the order of the texts, directories with a slash at the end. -/
def listing (tree : FileTree) : List String :=
  let inside (location : Location) : Option String :=
    if location.above = 0 then some ("/".intercalate location.names) else none
  (tree.directories.filterMap (fun location => (inside location).map (· ++ "/"))
    ++ tree.files.filterMap fun file => inside file.1).foldr insertText []

end FileTree

end Archivist
