import ServiceStubs.Program

/-!
# The command

The program on real files. What lies below the working directory, and below the directories that
the command line leads to, is first taken into a file tree. The run itself touches only that tree;
what it changed is written back afterwards. Links are not followed.
-/

namespace ServiceStubs.Command

/-- The paths that options lead to. -/
def pathsOf (options : CommandLine.Options) : List String :=
  let output := match options.outputDirectory with
    | .set path => [path]
    | _ => []
  output ++ options.paths ++ options.excludes ++ options.importPaths

/-- The directory to take in for a path: the part before its first pattern, or the directory of
the file there. -/
def areaOf (workingDirectory path : String) : IO Location := do
  let names := Path.names (Path.absolute workingDirectory path)
  let fixed := names.takeWhile fun name => !Pattern.hasWildcard name
  let isDirectory ← ((← IO.currentDir) / FileTree.pathOf fixed).isDir
  return if isDirectory then fixed else fixed.dropLast

/-- The directories to take in: the working directory, and those of the paths that lie outside of
the ones before. -/
def areas (workingDirectory : String) (paths : List String) : IO (List Location) := do
  let mut found := [Path.names workingDirectory]
  for path in paths do
    let area ← areaOf workingDirectory path
    if !found.any fun known => known.isPrefixOf area then found := found ++ [area]
  return found

/-- What lies below a directory. Schema files and files with a wanted name are read; of others
the name is enough. -/
partial def entriesBelow (wanted : List String) (location : Location) :
    IO (List (Location × Node)) := do
  let directory := (← IO.currentDir) / FileTree.pathOf location
  let mut found := []
  for entry in (← directory.readDir) do
    let place := location ++ [entry.fileName]
    match (← entry.path.symlinkMetadata).type with
    | .dir => found := (← entriesBelow wanted place) ++ (place, .directory) :: found
    | .file =>
      let isRead := Name.isSchemaFile entry.fileName || wanted.contains entry.fileName
      let bytes ← if isRead then IO.FS.readBinFile entry.path else pure ByteArray.empty
      found := (place, .file bytes.toList) :: found
    | _ => pure ()
  return found

/-- The tree of some directories that may exist. -/
def treeOf (wanted : List String) (areas : List Location) : IO FileTree := do
  let mut nodes := []
  for area in areas do
    match ← (entriesBelow wanted area).toBaseIO with
    | .ok found =>
      let parents := (List.range (area.length + 1)).map area.take
      let missing := parents.filter fun place =>
        place ≠ [] ∧ !nodes.any fun (entry : Location × Node) => entry.1 == place
      nodes := nodes ++ missing.map (fun place => (place, .directory)) ++ found
    | .error _ => pure ()
  return ⟨nodes⟩

/-- The names of imported files that are not told by their name to be schema files. -/
def importedNames (tree : FileTree) : List String :=
  tree.nodes.flatMap fun entry =>
    match entry.2 with
    | .directory => []
    | .file bytes =>
      let names := (Schema.File.ofBytes? bytes).bind Schema.File.importNames?
      ((names.getD []).map Path.fileName).filter fun name => !Name.isSchemaFile name

/-- The tree of some directories, with every file read that a schema file may import. -/
partial def load (areas : List Location) (wanted : List String) : IO FileTree := do
  let tree ← treeOf wanted areas
  let further := (importedNames tree).filter fun name => !wanted.contains name
  if further.isEmpty then return tree else load areas (wanted ++ further)

/-- Bring the changes of a run to the real files. -/
def store (before after : FileTree) : IO Unit := do
  for directory in FileTree.newDirectories before after do
    IO.FS.createDirAll directory
  for (path, bytes) in FileTree.changedFiles before after do
    IO.FS.writeBinFile path ⟨bytes.toArray⟩

end ServiceStubs.Command

open ServiceStubs in
/-- Run the program for the arguments of the command line. -/
def main (arguments : List String) : IO UInt32 := do
  let workingDirectory := (← IO.currentDir).toString
  let environment : Environment := { tools := .standard, workingDirectory }
  let tree ← match CommandLine.parse arguments with
    | .ok (.run options) =>
      Command.load (← Command.areas workingDirectory (Command.pathsOf options)) []
    | _ => pure {}
  let (result, session) := (environment.program arguments).run.run { tree }
  for notice in session.notices do
    IO.eprintln notice.line
  Command.store tree session.tree
  IO.print session.printed
  match result with
  | .ok .finished => return 0
  | .ok (.exited code output errors) =>
    IO.print output
    IO.eprint errors
    return code.toUInt32
  | .error failure =>
    IO.eprintln failure.message
    return 1
