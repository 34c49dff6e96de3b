import ServiceStubs.Failure
import ServiceStubs.Notice
import ServiceStubs.Path.Reference
import ServiceStubs.Schema.Library
import ServiceStubs.Sources
import ServiceStubs.StubModule.Layout
import ServiceStubs.Text.Newline

/-!
# Generating stubs

A run finds schema files, reads them, folds their declarations into a model and writes one module.
What it changes and reports is kept in a session; the compiler of schemas and the formatter are
parameters that only give values. Nothing is written before the text of the module is complete.
Whether the text has bytes is seen only when it is handed on: to the compiler, to the formatter, to
the file that was opened for it, or to the console.
-/

namespace ServiceStubs

/-- What a run changes: the tree, the notices and the printed text. -/
structure Session where
  tree : FileTree
  notices : List Notice := []
  printed : String := ""

/-- A step of a run. A failure keeps what has been changed before it. -/
abbrev Action (α : Type) := ExceptT Failure (StateM Session) α

/-- The programs that a run makes use of. -/
structure Tools where
  /-- The descriptors of the schema files at some paths, seen from a working directory, with
  further include directories. -/
  compile : FileTree → String → List String → List String → Option (List Descriptor.File)
  /-- The tidied text of a module, if there is a formatter and it can tidy the module. -/
  format : Option (StubModule → Option String)

/-- The schema compiler and the layout of this library. -/
def Tools.standard : Tools where
  compile := Schema.compile
  format := some Layout.tidy

/-- The standard tools without a formatter. -/
def Tools.withoutFormatter : Tools :=
  { Tools.standard with format := none }

/-- The surroundings of a run. -/
structure Environment where
  tools : Tools
  workingDirectory : String
  /-- How the pattern library reads a selection; see `Selection.strictAnyDepth`. -/
  strictAnyDepth : Bool := false
  /-- The halves of surrogate pairs that characters of the texts of the run stand for. Literals
  show the characters. -/
  surrogate? : Char → Option Text.Surrogate := fun _ => none
  /-- How printed texts are encoded. -/
  console : Text.Encoding := .utf8 fun _ => none

namespace Action

/-- Report something. -/
def report (notice : Notice) : Action Unit :=
  modify fun session => { session with notices := session.notices ++ [notice] }

/-- Go on if an encoding has bytes for a text. -/
def encodable (encoding : Text.Encoding) (text : String) : Action Unit :=
  match encoding.refusal? text with
  | none => return
  | some refusal => throw (.unencodable refusal)

/-- Print a text to a console. -/
def print (console : Text.Encoding) (text : String) : Action Unit := do
  encodable console text
  modify fun session => { session with printed := session.printed ++ text }

/-- The tree as it is now. -/
def tree : Action FileTree := do
  return (← get).tree

/-- Change the tree. A change that is interrupted leaves behind what it has done. -/
def changeTree (change : FileTree → Except Interruption FileTree) : Action Unit := do
  match change (← tree) with
  | .ok changed => modify fun session => { session with tree := changed }
  | .error interruption =>
    modify fun session => { session with tree := interruption.tree }
    throw (.path interruption.error)

/-- What a loose value gives, or the failure it causes. -/
def demand {α : Type} : Except Value.Fault α → Action α
  | .ok value => return value
  | .error fault => throw (.value fault)

/-- The model of some declarations. Packages that are left out are reported. -/
def model (declarations : List Declaration) : Action Model := do
  let folded := ({} : Model).fold declarations
  folded.clashes.forM fun clash => report (.packageIgnored clash)
  match folded.result with
  | .ok model => return model
  | .error fault => throw (.row fault)

end Action

namespace Environment

/-- How texts are handed to files and programs. -/
def encoding (environment : Environment) : Text.Encoding :=
  .utf8 environment.surrogate?

/-- The arguments that the compiler of schemas is called with. -/
def compilerArguments (environment : Environment) (paths importPaths : List String) :
    List String :=
  (Schema.includes environment.workingDirectory paths importPaths).map
      (fun candidate => "-I" ++ candidate.display) ++
    paths.map (Path.absolute environment.workingDirectory)

/-- The declarations of the schema files at some paths. -/
def declarations (environment : Environment) (paths importPaths : List String)
    (keepPackage : Bool) : Action (List Declaration) := do
  (environment.compilerArguments paths importPaths).forM (Action.encodable environment.encoding)
  match environment.tools.compile (← Action.tree) environment.workingDirectory paths
      importPaths with
  | none => throw (.schemas paths)
  | some files =>
    let declarations := files.flatMap fun file => file.declarations keepPackage
    Action.report (.schemasRead files.length declarations.length)
    return declarations

/-- The text of a file, with line feeds at the ends of its lines. -/
def sourceText (environment : Environment) (path : String) : Action String := do
  match (← Action.tree).read environment.workingDirectory path with
  | .error error => throw (.path error)
  | .ok bytes =>
    match Text.Utf8.decode bytes with
    | .error refusal => throw (.undecodable refusal)
    | .ok text => return String.ofList (Text.unifyNewlines text)

/-- The text of a module, tidied unless that is to be skipped or cannot be done. The formatter, if
there is one, reads it from a file. -/
def moduleText (environment : Environment) (skipFormat : Bool) (module : StubModule) :
    Action String := do
  if skipFormat then return module.render
  else
    Action.encodable environment.encoding module.render
    match environment.tools.format with
    | none =>
      Action.report .formatterMissing
      return module.render
    | some format =>
      match format module with
      | some text => return text
      | none =>
        Action.report .formatterFailed
        return module.render

/-- A selection as the pattern library reads it. -/
def reading (environment : Environment) (selection : Selection) : Selection :=
  { selection with strictAnyDepth := environment.strictAnyDepth }

/-- The schema files that some settings select. -/
def sources (environment : Environment) (settings : Settings) (root : String) :
    Action (List String) := do
  let selection ← Action.demand settings.selection
  return (environment.reading selection).sources (← Action.tree) environment.workingDirectory root

/-- The module of a model; the first path is the source that may be embedded. -/
def stubModule (environment : Environment) (settings : Settings) (paths : List String)
    (root topModule : String) (model : Model) : Action StubModule := do
  let sourceNames := paths.map Path.fileName
  if settings.useProtoPath.isTrue then
    let outputDirectory ← Action.demand settings.outputDirectory.pathPart
    let references :=
      Path.references environment.workingDirectory (some root) outputDirectory paths
    return {
      topModule, model, sourceNames
      paths := references
      refersToSources := true }
  else
    let content ← environment.sourceText (paths.headD "")
    return { topModule, model, sourceNames, content }

/-- The text of the module for the schema files at some paths, the first of which may name it. -/
def compose (environment : Environment) (settings : Settings) (paths : List String)
    (root : String) : Action String := do
  let importPaths ← Action.demand settings.importPaths.paths
  let declarations ← environment.declarations paths importPaths settings.usePackageNames.isTrue
  let model ← Action.model declarations
  let topModule :=
    Name.topModule settings.givenName model.package (Path.sourceName (paths.headD ""))
  Action.report (.generating model.services.length topModule)
  let module ← environment.stubModule settings paths root topModule model
  environment.moduleText settings.skipFormat.isTrue module

/-- Write a file, or fail with the tree as it is. -/
def write (environment : Environment) (path : String) (bytes : List UInt8) : Action Unit :=
  Action.changeTree fun tree =>
    (tree.write environment.workingDirectory path bytes).mapError (Interruption.mk tree)

/-- Write the text of a module into the output directory, which is made if it is missing, and give
the path of the file. The file is named after a schema file. -/
def store (environment : Environment) (settings : Settings) (root source text : String) :
    Action String := do
  let directory := Path.join root (← Action.demand settings.outputDirectory.pathPart)
  Action.changeTree fun tree => tree.makeDirectories environment.workingDirectory directory
  let path := Path.join directory (Path.moduleFileName source)
  -- Opening the file empties it, before the text is looked at.
  environment.write path []
  Action.encodable environment.encoding text
  environment.write path (Text.Utf8.encode text)
  Action.report (.written path)
  return path

/-- Generate the module of the schema files at some paths, the first of which names it, and give
the path of the file that was written. -/
def generate (environment : Environment) (settings : Settings) (paths : List String)
    (root : String) : Action String := do
  let text ← environment.compose settings paths root
  environment.store settings root (paths.headD "") text

/-- How to make the message classes for a generated module. -/
def hint (environment : Environment) (outputDirectory first root : String) : String :=
  let source := Path.relative environment.workingDirectory first root
  let directory := Path.directory source
  let shown := if directory = "" then "." else directory
  "You can generate the message classes by:\n" ++
    "python -m grpc_tools.protoc -I" ++ shown ++ " --python_out=" ++ outputDirectory ++
    " " ++ source ++ "\n"

/-- A whole run: find the schema files of some arguments, generate their module and say how to go
on. -/
def run (environment : Environment) (arguments : Arguments) (root : String) :
    Action String := do
  match Settings.ofArguments arguments with
  | .error fault => throw (.ofArgumentFault fault)
  | .ok settings =>
    let paths ← environment.sources settings root
    if paths.isEmpty then
      throw (.config (.noMatch (← Action.demand settings.paths.joinItems)))
    Action.report (.sourcesFound paths)
    let written ← environment.generate settings paths root
    Action.print environment.console
      (environment.hint settings.outputDirectory.display (paths.headD "") root)
    return written

end Environment

end ServiceStubs
