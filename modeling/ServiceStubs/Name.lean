import ServiceStubs.Text.Split
import ServiceStubs.Text.Upper

/-!
# Names

Schema names are written in many styles. The generated module uses one: each dotted segment in
`PascalCase`. This module holds that canonical form, the words that cannot be attribute names,
and the names derived from a package or a source file. It decides nothing about services.
-/

namespace ServiceStubs.Name

/-- Words of the generated language that cannot be used as names. -/
def reservedWords : List String := [
  "False", "None", "True", "and", "as", "assert", "async", "await", "break", "class",
  "continue", "def", "del", "elif", "else", "except", "finally", "for", "from", "global", "if",
  "import", "in", "is", "lambda", "nonlocal", "not", "or", "pass", "raise", "return", "try",
  "while", "with", "yield"]

/-- The name as an attribute: a reserved word gets an underscore. -/
def attributeName (name : String) : String :=
  if reservedWords.contains name then name ++ "_" else name

/-- The characters that divide the words of a segment. -/
def isSeparator (character : Char) : Bool :=
  character == '_' || character == '-'

/-- Drops separators and puts the next character after each into upper case; `capitalize` says
whether the next character is one of those. -/
def capitalizeWords (capitalize : Bool) : List Char → List Char
  | [] => []
  | character :: rest =>
    if isSeparator character then capitalizeWords true rest
    else if capitalize then Text.upper character ++ capitalizeWords false rest
    else character :: capitalizeWords false rest

/-- A segment in `PascalCase`: the first character and those after a separator in upper case, the
separators dropped, all else kept. -/
def camelize (segment : String) : String :=
  String.ofList (capitalizeWords true segment.toList)

/-- A dotted name with each segment in `PascalCase`. -/
def canonical (dotted : String) : String :=
  Text.joinStrings "." ((Text.splitString '.' dotted).map camelize)

/-- The name that qualifies all type references: the first of namespace, package and source name
that is not empty, in canonical form. -/
def topModule (namespaceName package : Option String) (sourceName : String) : String :=
  match [namespaceName.getD "", package.getD "", sourceName].find? (· != "") with
  | some name => canonical name
  | none => ""

/-- What stands before a service name in its route: the package and a dot. -/
def routePrefix (package : Option String) : String :=
  match package with
  | some name => if name = "" then "" else name ++ "."
  | none => ""

/-- The ending of schema files. -/
def schemaSuffix : String := ".proto"

/-- The ending of generated modules. -/
def moduleSuffix : String := ".generated.py"

/-- Whether a path names a schema file. -/
def isSchemaFile (path : String) : Bool :=
  Text.endsWith path schemaSuffix

end ServiceStubs.Name
