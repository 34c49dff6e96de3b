import ServiceStubs.Schema.Symbol

/-!
# Catalogs of definitions

Definitions by their complete names, with the types of fields looked up. Option values are read
against a catalog. It holds what files define, whether or not that obeys the rules, and nothing of
who may see it.
-/

namespace ServiceStubs.Schema

/-- The type of a field, looked up. -/
inductive KnownType where
  | scalar (scalar : Scalar)
  | message (name : FullName)
  | enumeration (name : FullName)
  deriving DecidableEq, Repr

/-- A field with its type looked up. -/
structure KnownField where
  name : String
  label : Label
  type : KnownType
  isGroup : Bool
  oneof : Option String
  settings : List Setting
  deriving DecidableEq, Repr

/-- A message with the types of its fields looked up. -/
structure KnownMessage where
  name : FullName
  fields : List KnownField
  deriving DecidableEq, Repr

/-- An enumeration; an open one also stands for numbers that it does not list. -/
structure KnownEnumeration where
  name : FullName
  values : List EnumValue
  isOpen : Bool
  deriving DecidableEq, Repr

/-- An extension with the message that it extends. -/
structure KnownExtension where
  name : FullName
  extendee : FullName
  field : KnownField
  deriving DecidableEq, Repr

/-- Definitions by their complete names. -/
structure Catalog where
  messages : List KnownMessage := []
  enumerations : List KnownEnumeration := []
  extensions : List KnownExtension := []

/-- The type that a name stands for in a scope, if it stands for one. -/
def TypeName.known? (entries : List Entry) (scope : FullName) (name : TypeName) :
    Option KnownType :=
  match resolve entries true scope name with
  | some ⟨name, .message _, _⟩ => some (.message name)
  | some ⟨name, .enumeration _, _⟩ => some (.enumeration name)
  | _ => none

/-- The type of a field, looked up in the scope that the field lies in. -/
def FieldType.known? (entries : List Entry) (scope : FullName) : FieldType → Option KnownType
  | .scalar type => some (.scalar type)
  | .named name => name.known? entries scope
  | .group name => name.known? entries scope

/-- A field with its type looked up. -/
def Field.known? (entries : List Entry) (scope : FullName) (field : Field) :
    Option KnownField := do
  let type ← field.type.known? entries scope
  let isGroup := match field.type with
    | .group _ => true
    | _ => false
  return ⟨field.name, field.label, type, isGroup, field.oneof, field.settings⟩

/-- An extension with its types looked up. -/
def Field.knownExtension? (entries : List Entry) (scope : FullName) (field : Field) :
    Option KnownExtension := do
  match resolve entries false scope (← field.extendee) with
  | some ⟨extendee, .message _, _⟩ =>
    return ⟨scope ++ [field.name], extendee, ← field.known? entries scope⟩
  | _ => none

namespace Catalog

/-- Two catalogs; what the first one holds is found first. -/
def append (left right : Catalog) : Catalog where
  messages := left.messages ++ right.messages
  enumerations := left.enumerations ++ right.enumerations
  extensions := left.extensions ++ right.extensions

/-- The definitions of a file, where `entries` are the symbols visible in it. -/
def ofFile (file : File) (entries : List Entry) (isOpen : Enumeration → Bool) : Catalog where
  messages := file.allMessages.map fun entry =>
    ⟨entry.1, entry.2.fields.filterMap (Field.known? entries entry.1)⟩
  enumerations := file.allEnumerations.map fun entry =>
    ⟨entry.1 ++ [entry.2.name], entry.2.values, isOpen entry.2⟩
  extensions := file.allExtensions.filterMap fun entry =>
    entry.2.knownExtension? entries entry.1

/-- The message of a complete name. -/
def message? (catalog : Catalog) (name : FullName) : Option KnownMessage :=
  catalog.messages.find? fun message => message.name == name

/-- The enumeration of a complete name. -/
def enumeration? (catalog : Catalog) (name : FullName) : Option KnownEnumeration :=
  catalog.enumerations.find? fun enumeration => enumeration.name == name

/-- The extension of a complete name. -/
def extension? (catalog : Catalog) (name : FullName) : Option KnownExtension :=
  catalog.extensions.find? fun extension => extension.name == name

end Catalog

end ServiceStubs.Schema
