import ServiceStubs.Descriptor
import ServiceStubs.Schema.Include
import ServiceStubs.Schema.Rules
import ServiceStubs.Text.Utf8

/-!
# Sets of schema files

Schema files are found by name in include directories and loaded with all that they import. Every
complete name is defined once in the whole set, and a file sees the names of itself, of its
imports, and of what those import publicly. `compile` gives the descriptors of the files asked
for, a file after those of them that it imports.
-/

namespace ServiceStubs.Schema

/-- A loaded file under the name that it is imported by, with its imports by name and its
definitions. -/
structure Loaded where
  name : String
  file : File
  imports : List (String × ImportKind)
  catalog : Catalog

namespace Loaded

/-- The symbols of a loaded file. -/
def entries (self : Loaded) : List Entry :=
  self.file.entries self.name

/-- The names of the imports of some kinds. -/
def importsOf (self : Loaded) (kinds : List ImportKind) : List String :=
  self.imports.filterMap fun item => if kinds.contains item.2 then some item.1 else none

end Loaded

/-! ## Visible files -/

/-- The names that a file and its public imports bring to an importer. `depth` bounds how many
files pass one another on. -/
def passedOn (loaded : List Loaded) : Nat → String → List String
  | 0, name => [name]
  | depth + 1, name =>
    match loaded.find? fun file => file.name == name with
    | none => [name]
    | some file => name :: (file.importsOf [.passedOn]).flatMap (passedOn loaded depth)

/-- The symbols of the loaded files that an importer of the given names sees. -/
def visibleEntries (loaded : List Loaded) (imports : List String) : List Entry :=
  let names := imports.flatMap (passedOn loaded loaded.length)
  (loaded.filter fun file => names.contains file.name).flatMap Loaded.entries

/-- The names of imports that types can use. -/
def typeImports (imports : List (String × ImportKind)) : List String :=
  imports.filterMap fun item => if item.2 = .forOptions then none else some item.1

/-- The symbols that the types of a file see. -/
def Loaded.typeEntries (loaded : List Loaded) (self : Loaded) : List Entry :=
  self.entries ++ visibleEntries loaded (typeImports self.imports)

/-- The symbols that the options of a file see. -/
def Loaded.optionEntries (loaded : List Loaded) (self : Loaded) : List Entry :=
  self.entries ++ visibleEntries loaded (self.imports.map Prod.fst)

/-! ## Adding a file -/

/-- Whether a file defines no name twice and none that the loaded files define. Packages may be
shared, but not with other definitions. -/
def File.namesAreNew (file : File) (loaded : List Loaded) : Bool :=
  let definitions := file.definitions.map Prod.fst
  let packages := file.packages
  let otherDefinitions := loaded.flatMap fun other => other.file.definitions.map Prod.fst
  let otherPackages := loaded.flatMap fun other => other.file.packages
  definitions.Nodup &&
    definitions.all (fun name =>
      !packages.contains name && !otherDefinitions.contains name &&
        !otherPackages.contains name) &&
    packages.all fun name => !otherDefinitions.contains name

/-- The definitions of all loaded files, and those that describe schema files. -/
def loadedCatalog (loaded : List Loaded) : Catalog :=
  loaded.foldr (fun file catalog => file.catalog.append catalog) descriptionCatalog

/-- The surroundings of a file whose imports are among the loaded files. -/
def Loaded.context (loaded : List Loaded) (self : Loaded) : Context where
  path := self.name
  dialect := self.file.dialect
  entries := self.typeEntries loaded
  reader := ⟨self.file.dialect, self.catalog.append (loadedCatalog loaded),
    self.optionEntries loaded⟩
  isLite := isLite self.file.settings

/-- A file with its definitions. Which enumerations are open is known only when options can be
read, and those do not depend on it. -/
def Loaded.ofFile (loaded : List Loaded) (name : String) (file : File)
    (imports : List (String × ImportKind)) : Loaded :=
  let draft : Loaded := ⟨name, file, imports, {}⟩
  let entries := draft.typeEntries loaded
  let catalogWith (isOpen : Enumeration → Bool) := Catalog.ofFile file entries isOpen
  let reader : OptionReader :=
    ⟨file.dialect, (catalogWith fun _ => true).append (loadedCatalog loaded),
      draft.optionEntries loaded⟩
  { draft with catalog := catalogWith (file.isOpen reader) }

/-- Whether a file imports one for the small runtime without being one. -/
def Loaded.importsLite (loaded : List Loaded) (self : Loaded) : Bool :=
  !isLite self.file.settings &&
    loaded.any fun other =>
      (self.imports.map Prod.fst).contains other.name && isLite other.file.settings

/-- A file added to those that are loaded, its imports among them, if it obeys all rules. -/
def accept? (loaded : List Loaded) (name : String) (file : File)
    (imports : List (String × ImportKind)) : Option (List Loaded) :=
  let self := Loaded.ofFile loaded name file imports
  if file.namesAreNew loaded && !self.importsLite loaded &&
      file.isValid (self.context loaded) then
    some (loaded ++ [self])
  else none

/-! ## Loading -/

/-- The names that a file imports, as text. -/
def File.importNames? (file : File) : Option (List String) :=
  file.imports.mapM fun item =>
    match Text.Utf8.decode (item.path.map fun character => UInt8.ofNat character.toNat) with
    | .ok path => some (String.ofList path)
    | .error _ => none

/-- How many different files can import one another in a row. -/
def Library.deepestImport (library : Library) : Nat :=
  library.tree.nodes.length * library.mappings.length + WellKnown.files.length + 1

/-- Load a file and all that it imports. `pending` are the files whose imports are being loaded,
which none of them may name again; `depth` bounds their number. -/
def Library.load (library : Library) (depth : Nat) (pending : List String)
    (loaded : List Loaded) (name : String) : Option (List Loaded) :=
  match depth with
  | 0 => none
  | depth + 1 =>
    if loaded.any fun file => file.name == name then some loaded
    else if pending.contains name then none
    else do
      let file ← library.file? name
      let imports ← file.importNames?
      if imports.Nodup then
        let loaded ← imports.foldlM (library.load depth (name :: pending)) loaded
        accept? loaded name file (imports.zip (file.imports.map Import.kind))
      else none

/-! ## Descriptors -/

/-- A message without its fields. -/
def Message.descriptor (message : Message) : Descriptor.Message :=
  .mk message.name message.isMapEntry
    (message.nested.map fun inner => inner.descriptor)
    (message.enumerations.map Enumeration.name)
termination_by sizeOf message
decreasing_by
  rename_i member
  have smaller := List.sizeOf_lt_of_mem member
  cases message
  simp only [Message.mk.sizeOf_spec] at *
  omega

/-- The complete name of a message that a method names, with its leading dot. -/
def Context.methodType (context : Context) (scope : FullName) (name : TypeName) : String :=
  match context.message? scope name with
  | some (entry, _) => dottedName entry.name
  | none => dottedName []

/-- A method with complete type names. -/
def Method.descriptor (context : Context) (scope : FullName) (method : Method) :
    Descriptor.Method where
  name := method.name
  input := context.methodType scope method.input
  output := context.methodType scope method.output
  clientStreaming := method.clientStreaming
  serverStreaming := method.serverStreaming

/-- A file reduced to what declarations are made of. -/
def Loaded.descriptor (loaded : List Loaded) (self : Loaded) : Descriptor.File :=
  let file := self.file
  let context := self.context loaded
  { package := Text.joinStrings "." file.scope
    messages := file.messages.map Message.descriptor
    enumerations := file.enumerations.map Enumeration.name
    services := file.services.map fun service =>
      ⟨service.name,
        service.methods.map (Method.descriptor context (file.scope ++ [service.name]))⟩ }

/-- The files asked for in the order of their imports. A file that was not asked for is skipped
with its imports; `seen` are those that stand already. `depth` bounds how many files import one
another in a row. -/
def inOrder (loaded : List Loaded) (wanted : List String) :
    Nat → List String → String → List String
  | 0, seen, _ => seen
  | depth + 1, seen, name =>
    if seen.contains name || !wanted.contains name then seen
    else
      match loaded.find? fun file => file.name == name with
      | none => seen
      | some file =>
        (file.imports.map Prod.fst).foldl (inOrder loaded wanted depth) seen ++ [name]

/-- The descriptors of the files at some paths, or nothing when there is no path or anything is
wrong with the files or their imports. -/
def compile (tree : FileTree) (workingDirectory : String) (paths importPaths : List String) :
    Option (List Descriptor.File) := do
  if paths.isEmpty then none
  else
    let library ← Library.ofIncludes? tree workingDirectory
      (includes workingDirectory paths importPaths)
    let names ← paths.mapM fun path => library.nameOf? (Path.absolute workingDirectory path)
    let loaded ← names.foldlM (library.load library.deepestImport []) []
    let ordered := names.foldl (inOrder loaded names loaded.length) []
    return (ordered.filterMap fun name => loaded.find? fun file => file.name == name).map
      (Loaded.descriptor loaded)

end ServiceStubs.Schema
