import ServiceStubs.Value

/-!
# Configuration

A caller hands in arguments, any of which may be missing and of any type. Settings are the
arguments after defaults have been filled in; a missing output directory is refused. Their values
stay loose: each is asked for its texts only when a run needs them. A selection is the part of the
settings that says which schema files are meant.
-/

namespace ServiceStubs

/-- The arguments of a run. -/
structure Arguments where
  paths : Option Value := none
  outputDirectory : Option Value := none
  excludes : Option Value := none
  importPaths : Option Value := none
  recursive : Option Value := none
  namespaceName : Option Value := none
  usePackageNames : Option Value := none
  useProtoPath : Option Value := none
  skipFormat : Option Value := none

/-- The arguments with defaults filled in. -/
structure Settings where
  paths : Value
  outputDirectory : Value
  excludes : Value := .list []
  importPaths : Value := .list []
  recursive : Value := .truth false
  namespaceName : Value := .null
  usePackageNames : Value := .truth false
  useProtoPath : Value := .truth false
  skipFormat : Value := .truth false

/-- Which schema files are meant: expressions that name them, expressions that exclude them, and
whether directories are searched to any depth. -/
structure Selection where
  paths : List String
  excludes : List String := []
  recursive : Bool := false
  /-- Whether `a/**` matches `a/` only if `a` is a directory. Releases of the pattern library differ
  in this: an older one has the match for a file too. -/
  strictAnyDepth : Bool := false
  deriving DecidableEq, Repr

/-- Why a run cannot start. The paths are shown as one text. -/
inductive ConfigFault where
  | noOutputDirectory (paths : String)
  | noMatch (paths : String)
  deriving DecidableEq, Repr

/-- The wording of a configuration fault. -/
def ConfigFault.message : ConfigFault → String
  | .noOutputDirectory paths =>
    "expected grpc-stub-generator to receive the proto paths and an output directory, " ++
      "got paths: " ++ paths
  | .noMatch paths => "no *.proto files matched: " ++ paths

/-- Why arguments are no settings. -/
inductive ArgumentFault where
  | config (fault : ConfigFault)
  | value (fault : Value.Fault)

/-- A value that counts as true, or else a default. -/
def Value.orElse (value : Option Value) (default : Value) : Value :=
  match value with
  | some given => if given.isTrue then given else default
  | none => default

namespace Settings

/-- The settings of some arguments. -/
def ofArguments (arguments : Arguments) : Except ArgumentFault Settings :=
  let paths := Value.orElse arguments.paths (.list [])
  let outputDirectory := Value.orElse arguments.outputDirectory (.text "")
  if outputDirectory.isTrue then
    .ok {
      paths
      outputDirectory
      excludes := Value.orElse arguments.excludes (.list [])
      importPaths := Value.orElse arguments.importPaths (.list [])
      recursive := arguments.recursive.getD (.truth false)
      namespaceName := Value.orElse arguments.namespaceName .null
      usePackageNames := arguments.usePackageNames.getD (.truth false)
      useProtoPath := arguments.useProtoPath.getD (.truth false)
      skipFormat := arguments.skipFormat.getD (.truth false) }
  else
    match paths.joinItems with
    | .ok shown => .error (.config (.noOutputDirectory shown))
    | .error fault => .error (.value fault)

/-- The selection in some settings. Faults of the excluding expressions come first. -/
def selection (settings : Settings) : Except Value.Fault Selection :=
  match settings.excludes.pathParts with
  | .error fault => .error fault
  | .ok excludes =>
    match settings.paths.pathParts with
    | .error fault => .error fault
    | .ok paths => .ok { paths, excludes, recursive := settings.recursive.isTrue }

/-- The name given for the module, unless it is empty. -/
def givenName (settings : Settings) : Option String :=
  if settings.namespaceName.isTrue then some settings.namespaceName.display else none

end Settings

end ServiceStubs
