import ServiceStubs.FileTree
import ServiceStubs.Schema.WellKnown

/-!
# Include directories

Where schema files are looked for. A file has a name that is the same wherever it lies; include
directories say how names and places on disk belong together. An include value may hold several
directories with colons between them, and a directory may have a name of its own before an equals
sign.
-/

namespace ServiceStubs.Schema

/-- Where schema files are looked for, as it is asked for. -/
inductive Include where
  | directory (path : String)
  | wellKnown
  deriving DecidableEq, Repr

/-- The include directory as it is shown; the place of the well-known files has no path. -/
def Include.display : Include → String
  | .directory path => path
  | .wellKnown => "<well-known>"

/-- The include directories of some files: their own directories, then further ones, then the
well-known files; each once. -/
def includes (workingDirectory : String) (paths importPaths : List String) : List Include :=
  let own := paths.map fun path => Path.directory (Path.absolute workingDirectory path)
  let further := importPaths.map (Path.absolute workingDirectory)
  ((own ++ further).map Include.directory ++ [Include.wellKnown]).foldl
    (fun found candidate => if candidate ∈ found then found else found ++ [candidate]) []

/-! ## Names and places -/

/-- A path without empty segments and steps in place. A slash at the start or the end stays. -/
def canonicalPath (path : String) : String :=
  let kept := (Path.segments path).filter fun segment => segment != "" && segment != "."
  let first := if path.toList.head? == some '/' then [""] else []
  let last := if path.toList.getLast? == some '/' then [""] else []
  Text.joinStrings "/" (first ++ kept ++ last)

/-- Whether a path has a parent step. -/
def hasParentStep (path : String) : Bool :=
  (Path.segments path).contains ".."

/-- A path behind another one, which may be empty. -/
def behind (base path : String) : String :=
  if base = "" then path else base ++ "/" ++ path

/-- The path with one start in place of another, if it has that start as whole segments. The empty
start stands for every path that is not absolute. -/
def replaceStart (path old new : String) : Option String :=
  if old = "" then
    if hasParentStep path || Path.isAbsolute path then none else some (behind new path)
  else if path = old then some new
  else if Text.startsWith path old then
    let rest := path.toList.drop old.length
    let after :=
      match rest with
      | '/' :: after => some after
      | _ => if old.toList.getLast? == some '/' then some rest else none
    after.bind fun after =>
      let after := String.ofList after
      if hasParentStep after then none else some (behind new after)
  else none

/-- A directory and the start of the names of files in it, or the well-known files. -/
inductive Mapping where
  | directory (nameStart diskStart : String)
  | wellKnown
  deriving DecidableEq, Repr

namespace Mapping

/-- The place on disk of a file by its name. -/
def diskPath? (name : String) : Mapping → Option String
  | .directory nameStart diskStart => replaceStart name nameStart diskStart
  | .wellKnown => none

/-- The name of a file by its place on disk. -/
def name? (path : String) : Mapping → Option String
  | .directory nameStart diskStart => replaceStart path diskStart nameStart
  | .wellKnown => none

/-- The mapping of one directory in an include value. A directory that is missing is taken for one
with an equals sign in its name if there is one. An empty directory is refused. -/
def ofPart? (tree : FileTree) (workingDirectory part : String) : Option Mapping :=
  let (nameStart, disk) :=
    match part.toList.dropWhile (· != '=') with
    | [] => ("", part)
    | _ :: disk => (String.ofList (part.toList.takeWhile (· != '=')), String.ofList disk)
  if disk = "" then none
  else if !tree.holds workingDirectory disk && tree.holds workingDirectory part then
    some (.directory "" (canonicalPath part))
  else some (.directory nameStart (canonicalPath disk))

/-- The mappings of an include value. -/
def ofInclude? (tree : FileTree) (workingDirectory : String) : Include → Option (List Mapping)
  | .wellKnown => some [.wellKnown]
  | .directory path =>
    ((Text.splitString ':' path).filter fun part => part != "").mapM
      (ofPart? tree workingDirectory)

end Mapping

/-! ## Finding files -/

/-- Where files are found: the tree as it is seen from the working directory, and the mappings in
order. -/
structure Library where
  tree : FileTree
  workingDirectory : String
  mappings : List Mapping

namespace Library

/-- The library of some include values. -/
def ofIncludes? (tree : FileTree) (workingDirectory : String) (includes : List Include) :
    Option Library := do
  let mappings ← includes.mapM (Mapping.ofInclude? tree workingDirectory)
  return ⟨tree, workingDirectory, mappings.flatten⟩

/-- The file of a name that a mapping leads to. -/
def fileIn? (library : Library) (name : String) (mapping : Mapping) : Option (Option File) :=
  match mapping with
  | .wellKnown => (WellKnown.files.lookup name).map some
  | .directory _ _ => do
    let path ← mapping.diskPath? name
    match library.tree.find? library.workingDirectory path with
    | some (.file bytes) => some (File.ofBytes? bytes)
    | _ => none

/-- The file of a name, from the first mapping that leads to one. Nothing is found for a name that
is spelled in more than one way, and nothing for a file that does not follow the grammar. -/
def file? (library : Library) (name : String) : Option File :=
  if canonicalPath name = name ∧ !hasParentStep name then
    (library.mappings.findSome? (library.fileIn? name)).join
  else none

/-- Whether a mapping leads to a file of a name. -/
def hasFile (library : Library) (name : String) : Bool :=
  canonicalPath name == name && !hasParentStep name &&
    library.mappings.any fun mapping => (library.fileIn? name mapping).isSome

/-- The name of a file by its place on disk, from the first mapping that knows it. No earlier
mapping may lead to something else by that name. -/
def nameOnDisk? (library : Library) (path : String) : Option (Option String) :=
  let path := canonicalPath path
  let rec search (earlier : List Mapping) : List Mapping → Option (Option String)
    | [] => none
    | mapping :: others =>
      match mapping.name? path with
      | none => search (earlier ++ [mapping]) others
      | some name =>
        let isShadowed := earlier.any fun other =>
          (other.diskPath? name).any fun disk => library.tree.holds library.workingDirectory disk
        some (if isShadowed then none else some name)
  search [] library.mappings

/-- The name of a file asked for by its absolute path. A path that leads to no file, or to one that
no mapping knows, may be a name itself. -/
def nameOf? (library : Library) (path : String) : Option String :=
  let asName := if library.hasFile path then some path else none
  if library.tree.holds library.workingDirectory path then
    match library.nameOnDisk? path with
    | some (some name) =>
      if library.tree.isFile library.workingDirectory path then some name else none
    | some none => none
    | none => asName
  else asName

end Library

end ServiceStubs.Schema
