import ServiceStubs.Schema.Tree

/-!
# Symbols and scopes

Every package, message, enumeration, service and member of a file has a complete name, a list of
parts. A name that is used without a leading dot is searched from the innermost scope outwards;
only its first part is searched that way, and the innermost hit decides.
-/

namespace ServiceStubs.Schema

/-- A complete name. -/
abbrev FullName := List String

/-- What a complete name stands for. Fields, choices, values, methods and extensions are
members. -/
inductive Symbol where
  | package
  | message (definition : Message)
  | enumeration (definition : Enumeration)
  | service
  | member

/-- What is known of the file that a symbol comes from. -/
structure Origin where
  path : String
  dialect : Dialect
  scope : FullName
  settings : List Setting

/-- A complete name, what it stands for, and where it comes from. -/
structure Entry where
  name : FullName
  symbol : Symbol
  origin : Origin

/-- Whether names may lie below the symbol. -/
def Symbol.isScope : Symbol → Bool
  | .member => false
  | _ => true

/-- Whether the symbol can be the type of a field. -/
def Symbol.isType : Symbol → Bool
  | .message _ => true
  | .enumeration _ => true
  | _ => false

/-- A message and all messages nested in it, with their complete names, a parent before its
children. -/
def Message.withNested (scope : FullName) (message : Message) : List (FullName × Message) :=
  (scope ++ [message.name], message) ::
    message.nested.flatMap fun inner => inner.withNested (scope ++ [message.name])
termination_by sizeOf message
decreasing_by
  rename_i member
  have smaller := List.sizeOf_lt_of_mem member
  cases message
  simp only [Message.mk.sizeOf_spec] at *
  omega

namespace File

/-- The package as the scope of the file's definitions. -/
def scope (file : File) : FullName :=
  file.package.getD []

/-- All messages of a file with their complete names. -/
def allMessages (file : File) : List (FullName × Message) :=
  file.messages.flatMap (Message.withNested file.scope)

/-- All enumerations of a file with the scopes they lie in. -/
def allEnumerations (file : File) : List (FullName × Enumeration) :=
  file.enumerations.map (fun enumeration => (file.scope, enumeration)) ++
    file.allMessages.flatMap fun entry =>
      entry.2.enumerations.map fun enumeration => (entry.1, enumeration)

/-- All extensions of a file with the scopes they lie in. -/
def allExtensions (file : File) : List (FullName × Field) :=
  file.extensions.map (fun field => (file.scope, field)) ++
    file.allMessages.flatMap fun entry => entry.2.extensions.map fun field => (entry.1, field)

/-- What is known of a file found under a path. -/
def origin (file : File) (path : String) : Origin :=
  ⟨path, file.dialect, file.scope, file.settings⟩

/-- The names of the package of a file and of the packages it lies in. -/
def packages (file : File) : List FullName :=
  (List.range file.scope.length).map fun index => file.scope.take (index + 1)

/-- All definitions of a file. The values of an enumeration lie in the scope around it. -/
def definitions (file : File) : List (FullName × Symbol) :=
  file.allMessages.flatMap (fun entry =>
    (entry.1, .message entry.2) ::
      entry.2.fields.map (fun field => (entry.1 ++ [field.name], .member)) ++
      entry.2.oneofs.map (fun oneof => (entry.1 ++ [oneof.name], .member))) ++
  file.allEnumerations.flatMap (fun entry =>
    (entry.1 ++ [entry.2.name], .enumeration entry.2) ::
      entry.2.values.map fun value => (entry.1 ++ [value.name], .member)) ++
  file.allExtensions.map (fun entry => (entry.1 ++ [entry.2.name], .member)) ++
  file.services.flatMap fun service =>
    (file.scope ++ [service.name], .service) ::
      service.methods.map fun method => (file.scope ++ [service.name, method.name], .member)

/-- All symbols of a file found under a path. -/
def entries (file : File) (path : String) : List Entry :=
  (file.packages.map (fun name => (name, Symbol.package)) ++ file.definitions).map fun entry =>
    ⟨entry.1, entry.2, file.origin path⟩

end File

/-- What a complete name stands for among some symbols. -/
def lookup (entries : List Entry) (name : FullName) : Option Entry :=
  entries.find? fun entry => entry.name == name

/-- Search a name from a scope outwards. The scope is given innermost part first. With `typesOnly`
a hit that is no type does not count for a name of one part; a hit below which no names can lie
never counts for a longer name. -/
def resolveFrom (entries : List Entry) (typesOnly : Bool) (name : FullName) :
    List String → Option Entry
  | [] => lookup entries name
  | part :: outer =>
    match name with
    | [] => none
    | first :: rest =>
      let candidate := (part :: outer).reverse ++ [first]
      match lookup entries candidate with
      | none => resolveFrom entries typesOnly name outer
      | some entry =>
        if rest.isEmpty then
          if typesOnly && !entry.symbol.isType then resolveFrom entries typesOnly name outer
          else some entry
        else if entry.symbol.isScope then lookup entries (candidate ++ rest)
        else resolveFrom entries typesOnly name outer

/-- What a name stands for that is used in a scope. -/
def resolve (entries : List Entry) (typesOnly : Bool) (scope : FullName) (name : TypeName) :
    Option Entry :=
  if name.isComplete then lookup entries name.parts
  else resolveFrom entries typesOnly name.parts scope.reverse

end ServiceStubs.Schema
