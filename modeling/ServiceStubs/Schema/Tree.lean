import ServiceStubs.Schema.Token

/-!
# Schema files as trees

What a schema file says, before anything is looked up: names are as they are spelled, and no rule
of the language beyond its grammar holds yet.
-/

namespace ServiceStubs.Schema

/-- The dialects of the language. A file that names none is in the second version. -/
inductive Dialect where
  | proto2
  | proto3
  | edition2023
  | edition2024
  deriving DecidableEq, Repr

namespace Dialect

/-- The place of a dialect among all of them, later ones higher. -/
def rank : Dialect → Nat
  | .proto2 => 998
  | .proto3 => 999
  | .edition2023 => 1000
  | .edition2024 => 1001

/-- Whether a dialect is an edition, which is tuned by features. -/
def isEdition (dialect : Dialect) : Bool :=
  Dialect.edition2023.rank ≤ dialect.rank

/-- Whether a dialect has names that other files see only if they are exported. -/
def hasVisibility (dialect : Dialect) : Bool :=
  Dialect.edition2024.rank ≤ dialect.rank

end Dialect

/-- The types that are not defined by a schema. -/
inductive Scalar where
  | double | float
  | int32 | int64 | uint32 | uint64 | sint32 | sint64
  | fixed32 | fixed64 | sfixed32 | sfixed64
  | bool | text | bytes
  deriving DecidableEq, Repr

/-- The scalar type of a word. -/
def Scalar.ofWord? : String → Option Scalar
  | "double" => some .double
  | "float" => some .float
  | "int32" => some .int32
  | "int64" => some .int64
  | "uint32" => some .uint32
  | "uint64" => some .uint64
  | "sint32" => some .sint32
  | "sint64" => some .sint64
  | "fixed32" => some .fixed32
  | "fixed64" => some .fixed64
  | "sfixed32" => some .sfixed32
  | "sfixed64" => some .sfixed64
  | "bool" => some .bool
  | "string" => some .text
  | "bytes" => some .bytes
  | _ => none

/-- A name with dots, as it is spelled. With a leading dot it is complete. -/
structure TypeName where
  isComplete : Bool
  parts : List String
  deriving DecidableEq, Repr

/-- The type of a field. -/
inductive FieldType where
  | scalar (scalar : Scalar)
  | named (name : TypeName)
  /-- A message defined in the place where it is used. -/
  | group (name : TypeName)
  deriving DecidableEq, Repr

/-- How often a field occurs. -/
inductive Label where
  | optional | required | repeated
  deriving DecidableEq, Repr

/-- The value of an option as it is written. The tokens of a block are kept to be read when its type
is known. -/
inductive OptionValue where
  | word (name : String)
  | integer (value : Int)
  | real
  | text (content : List Char)
  | block (tokens : List Token)
  deriving DecidableEq, Repr

/-- A part of an option's name; the name of an extension stands in brackets. -/
inductive OptionPart where
  | plain (name : String)
  | extension (name : TypeName)
  deriving DecidableEq, Repr

/-- An option that is set. -/
structure Setting where
  name : List OptionPart
  value : OptionValue
  deriving DecidableEq, Repr

/-- The default of a field. Its form is checked when it is read; for a named type the word is kept
to be looked up. -/
inductive Default where
  | scalar
  | word (name : String)
  | other
  deriving DecidableEq, Repr

/-- A field of a message, or an extension of the message it names. -/
structure Field where
  name : String
  number : Nat
  label : Label
  type : FieldType
  extendee : Option TypeName := none
  oneof : Option String := none
  default : Option Default := none
  jsonName : Option (List Char) := none
  settings : List Setting := []
  deriving DecidableEq, Repr

/-- A choice between fields; `isEmpty` says that it has no member. -/
structure Oneof where
  name : String
  isEmpty : Bool := false
  settings : List Setting := []
  deriving DecidableEq, Repr

/-- A closed range of numbers. -/
structure NumberRange where
  first : Int
  last : Int
  deriving DecidableEq, Repr

/-- A range of numbers that a message opens for extensions. -/
structure ExtensionRange where
  range : NumberRange
  settings : List Setting := []
  deriving DecidableEq, Repr

/-- What a definition says of being seen from other files. -/
inductive Visibility where
  | exported
  | local
  deriving DecidableEq, Repr

/-- A value of an enumeration. -/
structure EnumValue where
  name : String
  number : Int
  settings : List Setting := []
  deriving DecidableEq, Repr

/-- An enumeration. -/
structure Enumeration where
  name : String
  values : List EnumValue := []
  reservedRanges : List NumberRange := []
  reservedNames : List String := []
  settings : List Setting := []
  visibility : Option Visibility := none
  deriving DecidableEq, Repr

/-- A message. The entries of map fields are messages nested in it that nobody wrote. -/
structure Message where
  name : String
  isMapEntry : Bool := false
  fields : List Field := []
  oneofs : List Oneof := []
  extensions : List Field := []
  nested : List Message := []
  enumerations : List Enumeration := []
  reservedRanges : List NumberRange := []
  reservedNames : List String := []
  extensionRanges : List ExtensionRange := []
  settings : List Setting := []
  visibility : Option Visibility := none

/-- A method of a service. -/
structure Method where
  name : String
  input : TypeName
  output : TypeName
  clientStreaming : Bool := false
  serverStreaming : Bool := false
  settings : List Setting := []
  deriving DecidableEq, Repr

/-- A service. -/
structure Service where
  name : String
  methods : List Method := []
  settings : List Setting := []
  deriving DecidableEq, Repr

/-- What an import is for. The names of a public one are passed on to importers; those of one for
options are seen only by options. -/
inductive ImportKind where
  | ordinary
  | passedOn
  | forOptions
  deriving DecidableEq, Repr

/-- An import of a file. -/
structure Import where
  path : List Char
  kind : ImportKind := .ordinary
  deriving DecidableEq, Repr

/-- A schema file. -/
structure File where
  dialect : Dialect := .proto2
  package : Option (List String) := none
  imports : List Import := []
  messages : List Message := []
  enumerations : List Enumeration := []
  services : List Service := []
  extensions : List Field := []
  settings : List Setting := []

end ServiceStubs.Schema
