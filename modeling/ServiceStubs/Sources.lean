import ServiceStubs.Config
import ServiceStubs.Pattern

/-!
# Finding schema files

The expressions of a selection name directories, files or patterns. Each gives its schema files in
the order of their spelling; the results are put together in the order of the selection,
without excluded files and without a second way to the same file.
-/

namespace ServiceStubs

/-- A list of texts in ascending order. -/
def sorted (texts : List String) : List String :=
  texts.mergeSort fun left right => decide (left ≤ right)

/-- The first of each group of paths with one absolute path, in order, without those whose
absolute path is in the list given. -/
def withoutRepeats (workingDirectory : String) (taken : List String) :
    List String → List String
  | [] => []
  | path :: paths =>
    let target := Path.absolute workingDirectory path
    if taken.contains target then withoutRepeats workingDirectory taken paths
    else path :: withoutRepeats workingDirectory (target :: taken) paths

namespace Pattern.Search

/-- The files below a directory, at any depth. -/
def filesBelow (search : Search) (directory : String) : List String :=
  (search.tree.contents search.workingDirectory directory).filterMap fun entry =>
    match entry.2 with
    | .file _ => some (Path.join directory (Text.joinStrings "/" entry.1))
    | .directory => none

/-- The files in a directory. -/
def filesIn (search : Search) (directory : String) : List String :=
  (search.tree.list search.workingDirectory directory).filterMap fun entry =>
    match entry.2 with
    | .file _ => some (Path.join directory entry.1)
    | .directory => none

/-- What an expression names before schema files are picked out: the files of a directory, those
below it with recursion, or all matches of a pattern. -/
def candidates (search : Search) (path : String) : List String :=
  if search.tree.isDirectory search.workingDirectory path then
    if search.recursive then search.filesBelow path else search.filesIn path
  else search.expand path

/-- The schema files that an expression names, in ascending order. -/
def schemaFiles (search : Search) (path : String) : List String :=
  sorted ((search.candidates path).filter Name.isSchemaFile)

/-- The absolute paths that an expression excludes: a file, or all matches of a pattern. -/
def excluded (search : Search) (path : String) : List String :=
  (if search.tree.isFile search.workingDirectory path then [path] else search.expand path).map
    (Path.absolute search.workingDirectory)

end Pattern.Search

namespace Selection

/-- How the expressions of a selection are searched. -/
def search (selection : Selection) (tree : FileTree) (workingDirectory : String) : Pattern.Search :=
  ⟨tree, workingDirectory, selection.recursive, selection.strictAnyDepth⟩

/-- The absolute paths that a selection excludes. -/
def excludedPaths (selection : Selection) (tree : FileTree) (workingDirectory root : String) :
    List String :=
  selection.excludes.flatMap fun exclude =>
    (selection.search tree workingDirectory).excluded (Path.join root exclude)

/-- All schema files that a selection names, with repeats and excluded ones. -/
def namedFiles (selection : Selection) (tree : FileTree) (workingDirectory root : String) :
    List String :=
  selection.paths.flatMap fun path =>
    (selection.search tree workingDirectory).schemaFiles (Path.join root path)

/-- The schema files of a selection. -/
def sources (selection : Selection) (tree : FileTree) (workingDirectory root : String) :
    List String :=
  withoutRepeats workingDirectory (selection.excludedPaths tree workingDirectory root)
    (selection.namedFiles tree workingDirectory root)

end Selection

end ServiceStubs
