import ServiceStubs.Path

/-!
# File trees

A tree of directories and files, as a list of places and what stands there. There are no links and
no special files: nothing stands for a pipe, a socket or a device, and no place is refused for want
of rights. The order of the list is the order in which directories list their names, and carries no
meaning.
Looking a path up walks its segments one by one, so a parent step needs the directory it leaves
to exist. Reading and writing change no tree but the one they return.
-/

namespace ServiceStubs

/-- A place in a tree: the names on the way from the root. -/
abbrev Location := List String

/-- What stands at a place: a regular file or a directory. -/
inductive Node where
  | file (bytes : List UInt8)
  | directory
  deriving DecidableEq, Repr

/-- The places of a tree that hold something. The root is always a directory and is not listed. -/
structure FileTree where
  nodes : List (Location × Node) := []

/-- Why a path cannot be used. -/
inductive PathFault where
  | missing
  | exists
  | notADirectory
  | isADirectory
  deriving DecidableEq, Repr

/-- A path that could not be used, as it was spelled, with the reason. -/
structure PathError where
  fault : PathFault
  path : String
  deriving DecidableEq, Repr

/-- The number and wording of a reason. -/
def PathFault.message : PathFault → String
  | .missing => "[Errno 2] No such file or directory"
  | .exists => "[Errno 17] File exists"
  | .notADirectory => "[Errno 20] Not a directory"
  | .isADirectory => "[Errno 21] Is a directory"

/-- The wording of a path error. -/
def PathError.message (error : PathError) (literal : String → String) : String :=
  error.fault.message ++ ": " ++ literal error.path

/-- A change of a tree that ended half-way: the tree that it leaves behind, and the error that ended
it. -/
structure Interruption where
  tree : FileTree
  error : PathError

namespace FileTree

/-- What stands at a place. -/
def node? (tree : FileTree) (location : Location) : Option Node :=
  if location = [] then some .directory
  else (tree.nodes.find? fun entry => entry.1 == location).map Prod.snd

/-- Put something at a place, instead of what stands there. -/
def put (tree : FileTree) (location : Location) (node : Node) : FileTree :=
  if tree.nodes.any fun entry => entry.1 == location then
    ⟨tree.nodes.map fun entry => if entry.1 == location then (location, node) else entry⟩
  else ⟨tree.nodes ++ [(location, node)]⟩

/-- Take a place and all below it out of the tree. -/
def remove (tree : FileTree) (location : Location) : FileTree :=
  ⟨tree.nodes.filter fun entry => !location.isPrefixOf entry.1⟩

/-- The place that is reached from a directory by some segments. Every segment needs a directory
to start from; the place itself need not hold anything. -/
def walk (tree : FileTree) (location : Location) : List String → Except PathFault Location
  | [] => .ok location
  | segment :: segments =>
    match tree.node? location with
    | none => .error .missing
    | some (.file _) => .error .notADirectory
    | some .directory =>
      if segment = "" ∨ segment = "." then tree.walk location segments
      else if segment = ".." then tree.walk location.dropLast segments
      else tree.walk (location ++ [segment]) segments

/-- Where the segments of a path start: at the root, or in the working directory. -/
def startOf (workingDirectory path : String) : Location :=
  if Path.isAbsolute path then [] else Path.names workingDirectory

/-- The place of a path. An empty path has none. -/
def locate (tree : FileTree) (workingDirectory path : String) : Except PathFault Location :=
  if path = "" then .error .missing
  else tree.walk (startOf workingDirectory path) (Path.segments path)

/-- What stands at a path. -/
def find? (tree : FileTree) (workingDirectory path : String) : Option Node :=
  match tree.locate workingDirectory path with
  | .ok location => tree.node? location
  | .error _ => none

/-- Whether anything stands at a path. -/
def holds (tree : FileTree) (workingDirectory path : String) : Bool :=
  (tree.find? workingDirectory path).isSome

/-- Whether a file stands at a path. -/
def isFile (tree : FileTree) (workingDirectory path : String) : Bool :=
  match tree.find? workingDirectory path with
  | some (.file _) => true
  | _ => false

/-- Whether a directory stands at a path. -/
def isDirectory (tree : FileTree) (workingDirectory path : String) : Bool :=
  match tree.find? workingDirectory path with
  | some .directory => true
  | _ => false

/-- All places below a place, by the names on the way there, with what stands there. -/
def below (tree : FileTree) (location : Location) : List (Location × Node) :=
  tree.nodes.filterMap fun entry =>
    if location.isPrefixOf entry.1 && location.length < entry.1.length then
      some (entry.1.drop location.length, entry.2)
    else none

/-- All places below the directory at a path; none when no directory stands there. -/
def contents (tree : FileTree) (workingDirectory path : String) : List (Location × Node) :=
  match tree.locate workingDirectory path with
  | .error _ => []
  | .ok location =>
    match tree.node? location with
    | some .directory => tree.below location
    | _ => []

/-- The names in the directory at a path, with what stands there. -/
def list (tree : FileTree) (workingDirectory path : String) : List (String × Node) :=
  (tree.contents workingDirectory path).filterMap fun entry =>
    match entry.1 with
    | [name] => some (name, entry.2)
    | _ => none

/-- The bytes of the file at a path. -/
def read (tree : FileTree) (workingDirectory path : String) : Except PathError (List UInt8) :=
  match tree.locate workingDirectory path with
  | .error fault => .error ⟨fault, path⟩
  | .ok location =>
    match tree.node? location with
    | some (.file bytes) => .ok bytes
    | some .directory => .error ⟨.isADirectory, path⟩
    | none => .error ⟨.missing, path⟩

/-- The segments of a path up to its last name, and that name; trailing slashes do not count. -/
def lastSegment (path : String) : Option (List String × String) :=
  match (Path.segments path).reverse.dropWhile (· == "") with
  | [] => none
  | last :: reversed => some (reversed.reverse, last)

/-- The place of a path whose directory exists, and whether its last segment is a name. -/
def locateNew (tree : FileTree) (workingDirectory path : String) :
    Except PathFault Location :=
  match lastSegment path with
  | none => .error .exists
  | some (directory, last) =>
    match tree.walk (startOf workingDirectory path) (directory ++ [""]) with
    | .error fault => .error fault
    | .ok location =>
      if last = "." ∨ last = ".." then .error .exists else .ok (location ++ [last])

/-- Make one directory, in a directory that exists. -/
def makeDirectory (tree : FileTree) (workingDirectory path : String) :
    Except PathError FileTree :=
  match tree.locateNew workingDirectory path with
  | .error fault => .error ⟨fault, path⟩
  | .ok location =>
    match tree.node? location with
    | some _ => .error ⟨.exists, path⟩
    | none => .ok (tree.put location .directory)

/-- The path of the directory that a path lies in, and the name there; a trailing slash does not
count. -/
def parentAndName (path : String) : String × String :=
  if Path.fileName path = "" then
    let trimmed := Path.directory path
    (Path.directory trimmed, Path.fileName trimmed)
  else (Path.directory path, Path.fileName path)

/-- Make one directory, unless a directory stands there already. -/
def ensureDirectory (tree : FileTree) (workingDirectory path : String) :
    Except Interruption FileTree :=
  match tree.makeDirectory workingDirectory path with
  | .ok made => .ok made
  | .error error =>
    if tree.isDirectory workingDirectory path then .ok tree else .error ⟨tree, error⟩

/-- Make a directory and, from the outermost one on, the directories it lies in. A directory that
exists already is no error, and neither is something else in place of an outer one, which then
stops the inner ones. `depth` bounds how many directories are looked at. -/
def makeDirectoriesUpTo (depth : Nat) (tree : FileTree) (workingDirectory path : String) :
    Except Interruption FileTree :=
  match depth with
  | 0 => .error ⟨tree, ⟨.missing, path⟩⟩
  | depth + 1 =>
    let parent := (parentAndName path).1
    let name := (parentAndName path).2
    -- The directory that a step in place names has been made with its parent.
    let inner (tree : FileTree) : Except Interruption FileTree :=
      if name = "." then .ok tree else tree.ensureDirectory workingDirectory path
    if parent ≠ "" ∧ name ≠ "" ∧ !tree.holds workingDirectory parent then
      match makeDirectoriesUpTo depth tree workingDirectory parent with
      | .ok made => inner made
      | .error interruption =>
        if interruption.error.fault = .exists then inner interruption.tree
        else .error interruption
    else tree.ensureDirectory workingDirectory path

/-- Make a directory and the directories it lies in. -/
def makeDirectories (tree : FileTree) (workingDirectory path : String) :
    Except Interruption FileTree :=
  makeDirectoriesUpTo (path.length + 1) tree workingDirectory path

/-- Write a file, in a directory that exists, over the file that may stand there. -/
def write (tree : FileTree) (workingDirectory path : String) (bytes : List UInt8) :
    Except PathError FileTree :=
  match tree.locateNew workingDirectory path with
  | .error .exists => .error ⟨.isADirectory, path⟩
  | .error fault => .error ⟨fault, path⟩
  | .ok location =>
    match tree.node? location with
    | some .directory => .error ⟨.isADirectory, path⟩
    | _ => .ok (tree.put location (.file bytes))

/-- The absolute path of a place. -/
def pathOf (location : Location) : String :=
  "/" ++ Text.joinStrings "/" location

/-- The files of the second tree that the first one does not hold with the same bytes. -/
def changedFiles (before after : FileTree) : List (String × List UInt8) :=
  after.nodes.filterMap fun entry =>
    match entry.2 with
    | .directory => none
    | .file bytes =>
      if before.node? entry.1 = some (.file bytes) then none else some (pathOf entry.1, bytes)

/-- The directories of the second tree where the first one has none, in the order of their
paths. -/
def newDirectories (before after : FileTree) : List String :=
  let paths := after.nodes.filterMap fun entry =>
    if entry.2 = .directory ∧ before.node? entry.1 ≠ some .directory then some (pathOf entry.1)
    else none
  paths.mergeSort fun left right => decide (left ≤ right)

end FileTree

end ServiceStubs
