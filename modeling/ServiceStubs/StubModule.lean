import ServiceStubs.Signature
import ServiceStubs.Text.Quoted

/-!
# Stub modules

The generated module: constants, helper definitions, and for each service a class with its table
of methods and a class with its stub. A module is first a list of pieces, each of which is a
statement; the text is the statements, each ended by a line feed. How the same statements look in
a tidied module is not said here.
-/

namespace ServiceStubs

/-- What a generated module is made from. Either the text of the source is embedded, or the module
refers to the source files by their paths. -/
structure StubModule where
  topModule : String
  model : Model
  sourceNames : List String
  content : String := ""
  paths : List String := []
  refersToSources : Bool := false

/-- A part of a generated module. -/
inductive Piece where
  /-- A line that is the same in every layout. -/
  | line (text : String)
  /-- A constant whose value is a text, or nothing. -/
  | constant (name : String) (value : Option String)
  /-- The description of the module or of a class, at an indentation. -/
  | description (indent : Nat) (text : String)
  /-- The list of the source paths. -/
  | sourcePaths (paths : List String)
  /-- The line that names a service for routing. -/
  | routeName (name : String)
  /-- The line of a stub that gives its service. -/
  | serviceName (name : String)
  /-- The table of the methods of a service, with the name that qualifies their types. -/
  | table (topModule : String) (rpcs : List Rpc)
  /-- The attribute of a stub that calls a method. -/
  | call (attributeName kind route : String)

/-- The literal of an optional text. -/
def optionalLiteral : Option String → String
  | some text => Text.Quoted.literal text
  | none => "None"

/-- The expression that finds a source file from the module. -/
def pathExpression (path : String) : String :=
  "os.path.normpath(os.path.join(here, " ++ Text.Quoted.literal path ++ "))"

/-- The expression of a list, with its items on lines of their own. -/
def listExpression (indent : Nat) (items : List String) : String :=
  "[\n" ++ String.join (items.map fun item => Text.blanks (indent + 4) ++ item ++ ",\n") ++
    Text.blanks indent ++ "]"

/-- A part of a module that can be laid out: a line as it is, a description, or an assignment. The
code of a description and of a value is as it is first written. -/
inductive Statement where
  | line (text : String)
  | description (indent : Nat) (code : String)
  | assignment (indent : Nat) (target value : String)

/-- The statement of a piece. -/
def Piece.statement : Piece → Statement
  | .line text => .line text
  | .description indent text => .description indent ("\"\"\"" ++ text ++ "\"\"\"")
  | .constant name value => .assignment 0 name (optionalLiteral value)
  | .sourcePaths paths =>
    .assignment 0 "PROTO_PATHS" (listExpression 0 (paths.map pathExpression))
  | .routeName name => .assignment 4 "name" ("\"" ++ name ++ "\"")
  | .serviceName name => .assignment 4 "service" name
  | .table topModule rpcs =>
    .assignment 4 "rpcs" (listExpression 4 (rpcs.map fun rpc => rpc.signature topModule))
  | .call attributeName kind route =>
    .assignment 8 ("self." ++ attributeName) ("channel." ++ kind ++ "(\"" ++ route ++ "\")")

/-- A statement as it is first written. -/
def Statement.text : Statement → String
  | .line text => text
  | .description indent code => Text.blanks indent ++ code
  | .assignment indent target value => Text.blanks indent ++ target ++ " = " ++ value

namespace StubModule

/-- Lines that are the same in every layout. -/
def fixed (lines : List String) : List Piece :=
  lines.map Piece.line

/-- The first line of the module's description, which names the source files. -/
def title (module : StubModule) : String :=
  "This is an automatically generated client stub for " ++
    Text.joinStrings ", " module.sourceNames ++ "."

/-- The description of the module. -/
def description (module : StubModule) : String :=
  module.title ++ "\n\n" ++
    "Do not edit. Regenerate with `grpc-stub-generator` when the definitions change.\n"

/-- The description and the imports. -/
def preamble (module : StubModule) : List Piece :=
  .description 0 module.description :: fixed [
    "",
    "from __future__ import annotations",
    "",
    "import os",
    "from typing import TYPE_CHECKING, NamedTuple",
    "",
    "if TYPE_CHECKING:",
    "    import grpc",
    "",
    "here = os.path.dirname(os.path.abspath(__file__))",
    ""]

/-- The constants: top module, package, and the source or where it is found. -/
def constants (module : StubModule) : List Piece :=
  [.constant "TOP_MODULE" (some module.topModule),
    .constant "PACKAGE" module.model.package] ++
  if module.refersToSources then
    [.sourcePaths module.paths]
  else [.constant "PROTO_SOURCE" (some module.content)]

/-- The definitions that tables of methods are built with. -/
def helpers : List Piece :=
  fixed [
    "",
    "",
    "class Stream(NamedTuple):",
    "    \"\"\"A request or response that is a stream of messages.\"\"\"",
    "",
    "    type_name: str",
    "",
    "",
    "class Rpc(NamedTuple):",
    "    \"\"\"The declaration of a single RPC method.\"\"\"",
    "",
    "    name: str",
    "    request: str | Stream",
    "    response: str | Stream",
    "",
    "",
    "def stream(type_name: str) -> Stream:",
    "    return Stream(type_name)",
    "",
    "",
    "def rpc(name: str, request: str | Stream, response: str | Stream) -> Rpc:",
    "    return Rpc(name, request, response)"]

/-- The function that gives the source text back. -/
def loader (module : StubModule) : List Piece :=
  fixed <|
    ["",
      "",
      "def load_proto_source() -> str:",
      "    \"\"\"Return the text of the *.proto definitions this module was generated from." ++
        "\"\"\""] ++
    if module.refersToSources then
      ["    sources = []",
        "    for path in PROTO_PATHS:",
        "        with open(path, encoding=\"utf8\") as f:",
        "            sources.append(f.read())",
        "    return \"\\n\".join(sources)"]
    else ["    return PROTO_SOURCE"]

end StubModule

namespace Service

/-- The name that the classes of a service start with: its display name without dots. -/
def className (service : Service) : String :=
  String.ofList (service.displayName.toList.filter (· != '.'))

/-- The name that a service is routed by. -/
def routeName (service : Service) (package : Option String) : String :=
  Name.routePrefix package ++ service.wireName

/-- The route of a method. -/
def route (service : Service) (package : Option String) (rpc : Rpc) : String :=
  "/" ++ service.routeName package ++ "/" ++ rpc.method

/-- The description of the class with the table of methods. -/
def description (service : Service) (topModule : String) : String :=
  "The `" ++ topModule ++ "." ++ service.displayName ++ "` service."

/-- The description of the stub class. -/
def stubDescription (service : Service) (topModule : String) : String :=
  "Client stub for the `" ++ topModule ++ "." ++ service.displayName ++ "` service."

/-- The class with the table of methods. -/
def tablePieces (service : Service) (topModule : String) (package : Option String) :
    List Piece :=
  [.line "",
    .line "",
    .line ("class " ++ service.className ++ "Service:"),
    .description 4 (service.description topModule),
    .line "",
    .routeName (service.routeName package),
    .table topModule service.rpcs]

/-- The stub class. -/
def stubPieces (service : Service) (topModule : String) (package : Option String) :
    List Piece :=
  [.line "",
    .line "",
    .line ("class " ++ service.className ++ "Stub:"),
    .description 4 (service.stubDescription topModule),
    .line "",
    .serviceName (service.className ++ "Service"),
    .line "",
    .line "    def __init__(self, channel: grpc.Channel) -> None:",
    .line "        self.channel = channel"] ++
  service.rpcs.map fun rpc =>
    .call (Name.attributeName rpc.method) rpc.callKind (service.route package rpc)

/-- Both classes of a service. -/
def pieces (service : Service) (topModule : String) (package : Option String) : List Piece :=
  service.tablePieces topModule package ++ service.stubPieces topModule package

end Service

namespace StubModule

/-- All pieces of a module, in order. -/
def pieces (module : StubModule) : List Piece :=
  module.preamble ++ module.constants ++ helpers ++ module.loader ++
    module.model.services.flatMap fun service =>
      service.pieces module.topModule module.model.package

/-- The statements of a module, in order. -/
def statements (module : StubModule) : List Statement :=
  module.pieces.map Piece.statement

/-- Lines as one text. -/
def ofLines (lines : List String) : String :=
  String.join (lines.map (· ++ "\n"))

/-- The text of a module as it is first written. -/
def render (module : StubModule) : String :=
  ofLines (module.statements.map Statement.text)

/-- A layout that does not exist. A name that would leave the directory of layouts is refused
before it is looked for. -/
structure UnknownTemplate where
  name : String
  leavesDirectory : Bool
  deriving DecidableEq, Repr

/-- The wording of an unknown layout. -/
def UnknownTemplate.message (fault : UnknownTemplate) : String :=
  if fault.leavesDirectory then fault.name
  else Text.Quoted.literal fault.name ++ " not found in search path: '<templates>'"

/-- The name of the only layout. -/
def templateName : String := "grpc_stub.py.jinja2"

/-- The text of a module in a layout given by name. Empty segments and steps in place in the name
do not matter. -/
def renderAs (module : StubModule) (name : String) : Except UnknownTemplate String :=
  let segments := Text.splitString '/' name
  if segments.contains ".." then .error ⟨name, true⟩
  else if segments.filter (fun segment => segment != "" && segment != ".") = [templateName] then
    .ok module.render
  else .error ⟨name, false⟩

end StubModule

end ServiceStubs
