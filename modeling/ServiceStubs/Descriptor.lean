import ServiceStubs.Declaration

/-!
# Descriptors

A descriptor is a checked schema file, reduced to what declarations are made of. Type names in it
are complete and start with a dot. The module flattens a descriptor: the package, then the
messages with their dotted names, the enumerations, and the services.
-/

namespace ServiceStubs.Descriptor

/-- A message with the messages nested in it and the names of the enumerations nested in it. A map
entry stands for a pair of a map field and was not written by anyone. -/
inductive Message where
  | mk (name : String) (isMapEntry : Bool) (nested : List Message)
      (enumerations : List String := [])

/-- A method of a service. -/
structure Method where
  name : String
  input : String
  output : String
  clientStreaming : Bool := false
  serverStreaming : Bool := false
  deriving DecidableEq, Repr

/-- A service with its methods in order. -/
structure Service where
  name : String
  methods : List Method := []
  deriving DecidableEq, Repr

/-- A schema file. The package is empty when none is declared. -/
structure File where
  package : String := ""
  messages : List Message := []
  enumerations : List String := []
  services : List Service := []

/-- A complete type name as the model uses it: without leading dots and, unless package names are
kept, without the package of the file that refers to it. -/
def relativeTypeName (typeName package : String) (keepPackage : Bool := false) : String :=
  let name := typeName.toList.dropWhile (· == '.')
  let scope := package.toList ++ ['.']
  if !keepPackage && package != "" && scope.isPrefixOf name then
    String.ofList (name.drop scope.length)
  else String.ofList name

mutual

/-- The dotted names of a message and all below it, a parent before its children. Map entries are
left out with everything nested in them, and so are nested enumerations. -/
def Message.dottedNames (scope : String) : Message → List String
  | .mk name isMapEntry nested _ =>
    if isMapEntry then []
    else (scope ++ name) :: Message.dottedNamesOf (scope ++ name ++ ".") nested

/-- `dottedNames` for messages side by side. -/
def Message.dottedNamesOf (scope : String) : List Message → List String
  | [] => []
  | message :: messages => message.dottedNames scope ++ Message.dottedNamesOf scope messages

end

/-- The row of a method: its place, its name, its types and its streaming flags. -/
def Method.row (method : Method) (package : String) (keepPackage : Bool) (index : Nat) : Row :=
  [.integer index, .text method.name,
    .text (relativeTypeName method.input package keepPackage),
    .text (relativeTypeName method.output package keepPackage),
    .truth method.clientStreaming, .truth method.serverStreaming]

/-- A service as a declaration. -/
def Service.declaration (service : Service) (package : String) (keepPackage : Bool) :
    Declaration :=
  .service (.text service.name)
    (service.methods.mapIdx fun index method => method.row package keepPackage index)

/-- The declarations of a file. -/
def File.declarations (file : File) (keepPackage : Bool := false) : List Declaration :=
  (if file.package = "" then [] else [.package (.text file.package)]) ++
    (Message.dottedNamesOf "" file.messages).map (fun name => .message (.text name)) ++
    file.enumerations.map (fun name => .enumeration (.text name)) ++
    file.services.map fun service => service.declaration file.package keepPackage

end ServiceStubs.Descriptor
