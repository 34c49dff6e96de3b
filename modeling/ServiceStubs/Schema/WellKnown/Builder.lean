import ServiceStubs.Schema.Grammar
import ServiceStubs.Text.Split

/-!
# Definitions written down

Short ways to write trees of definitions that are not read from a file. The module holds no
definition of a schema itself.
-/

namespace ServiceStubs.Schema.Field

/-- The option with a limit to the editions that know it. -/
def supported (field : Field) (limit edition : String) : Field :=
  { field with
    settings := field.settings ++ [⟨[.plain "feature_support", .plain limit], .word edition⟩] }

/-- The option that is no longer known from an edition on. -/
def removedIn (field : Field) (edition : String) : Field :=
  field.supported "edition_removed" edition

end ServiceStubs.Schema.Field

namespace ServiceStubs.Schema.WellKnown

/-! ## Types -/

/-- The type of texts. -/
def text : FieldType := .scalar .text

/-- The type of byte strings. -/
def bytes : FieldType := .scalar .bytes

/-- The type of truth values. -/
def truth : FieldType := .scalar .bool

/-- The type of integers of 32 bits. -/
def int32 : FieldType := .scalar .int32

/-- The type of integers of 64 bits. -/
def int64 : FieldType := .scalar .int64

/-- The type of natural numbers of 32 bits. -/
def uint32 : FieldType := .scalar .uint32

/-- The type of natural numbers of 64 bits. -/
def uint64 : FieldType := .scalar .uint64

/-- The type of floating-point numbers. -/
def float : FieldType := .scalar .float

/-- The type of floating-point numbers of double width. -/
def double : FieldType := .scalar .double

/-- A dotted name that is searched from where it is used. -/
def nameOf (name : String) : TypeName :=
  ⟨false, Text.splitString '.' name⟩

/-- A type by its name. -/
def named (name : String) : FieldType := .named (nameOf name)

/-! ## Fields -/

/-- A field that may be set. -/
def one (name : String) (number : Nat) (type : FieldType) : Field where
  name := name
  number := number
  label := .optional
  type := type

/-- A field that may be set several times. -/
def many (name : String) (number : Nat) (type : FieldType) : Field :=
  { one name number type with label := .repeated }

/-- A field that has to be set. -/
def needed (name : String) (number : Nat) (type : FieldType) : Field :=
  { one name number type with label := .required }

/-- A member of a choice. -/
def member (oneof name : String) (number : Nat) (type : FieldType) : Field :=
  { one name number type with oneof := some oneof }

/-- An extension of the message of a name. -/
def extending (extendee : String) (field : Field) : Field :=
  { field with extendee := some (nameOf extendee) }

/-- A feature that is known from an edition on and may be set on some kinds of definitions. -/
def feature (name : String) (number : Nat) (type : FieldType) (edition : String)
    (targets : List String) : Field :=
  let field := (one name number type).supported "edition_introduced" edition
  { field with
    settings := field.settings ++ targets.map fun target =>
      ⟨[.plain "targets"], .word ("TARGET_TYPE_" ++ target)⟩ }

/-! ## Other definitions -/

/-- An enumeration by the names and numbers of its values. -/
def choices (name : String) (values : List (String × Int)) : Enumeration where
  name := name
  values := values.map fun value => { name := value.1, number := value.2 }

/-- An import of a file. -/
def imported (path : String) : Import where
  path := path.toList

end ServiceStubs.Schema.WellKnown
