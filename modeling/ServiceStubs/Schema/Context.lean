import ServiceStubs.Schema.Features

/-!
# The surroundings of a file

What the rules need to know besides a file itself: the symbols that are visible in it, and the
reader of its options. A type from another file is found only if that file lets it be seen.
-/

namespace ServiceStubs.Schema

/-- The import name and dialect of a file, the symbols that its types see, and the reader of its
options. -/
structure Context where
  path : String
  dialect : Dialect
  entries : List Entry
  reader : OptionReader
  isLite : Bool

/-- Whether settings of a file make it one for the small runtime. -/
def isLite (settings : List Setting) : Bool :=
  (settingWords "optimize_for" settings).contains "LITE_RUNTIME"

/-- The settings that choose features. -/
def featureSettings (settings : List Setting) : List Setting :=
  settings.filter fun setting => setting.name.head? == some (.plain "features")

/-- Which definitions of a file are seen from others without a word of their own. -/
def Origin.defaultVisibility (origin : Origin) : DefaultVisibility :=
  ((OptionReader.standard origin.dialect).features .file origin.scope
    (Features.ofDialect origin.dialect) (featureSettings origin.settings)).defaultVisibility

namespace Entry

/-- What a definition says itself of being seen from other files. -/
def visibility? (entry : Entry) : Option Visibility :=
  match entry.symbol with
  | .message definition => definition.visibility
  | .enumeration definition => definition.visibility
  | _ => none

/-- Whether a definition lies in no other one. -/
def isTopLevel (entry : Entry) : Bool :=
  entry.name.length == entry.origin.scope.length + 1

/-- Whether a definition is seen from other files. -/
def isExported (entry : Entry) : Bool :=
  match entry.visibility? with
  | some .exported => true
  | some .local => false
  | none =>
    match entry.origin.defaultVisibility with
    | .all => true
    | .topLevel => entry.isTopLevel
    | .nothing => false
    | .strict => false

end Entry

/-- What the type of a field stands for. -/
inductive ResolvedType where
  | scalar (type : Scalar)
  | message (entry : Entry) (definition : Message)
  | enumeration (entry : Entry) (definition : Enumeration)

namespace Context

/-- The symbol that a name stands for in a scope, if the file may see it. -/
def find? (context : Context) (typesOnly : Bool) (scope : FullName) (name : TypeName) :
    Option Entry := do
  let entry ← resolve context.entries typesOnly scope name
  if entry.origin.path == context.path || entry.isExported then some entry else none

/-- The message that a name stands for in a scope. -/
def message? (context : Context) (scope : FullName) (name : TypeName) :
    Option (Entry × Message) := do
  let entry ← context.find? false scope name
  match entry.symbol with
  | .message definition => some (entry, definition)
  | _ => none

/-- What the type of a field stands for in the scope that the field lies in. -/
def type? (context : Context) (scope : FullName) (type : FieldType) : Option ResolvedType :=
  let named (name : TypeName) : Option ResolvedType := do
    let entry ← context.find? true scope name
    match entry.symbol with
    | .message definition => some (.message entry definition)
    | .enumeration definition => some (.enumeration entry definition)
    | _ => none
  match type with
  | .scalar type => some (.scalar type)
  | .named name => named name
  | .group name => named name

/-- Whether the enumeration of a complete name also stands for numbers that it does not list. -/
def isOpen (context : Context) (name : FullName) : Bool :=
  (context.reader.catalog.enumeration? name).all KnownEnumeration.isOpen

end Context

end ServiceStubs.Schema
