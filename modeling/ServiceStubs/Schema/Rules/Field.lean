import ServiceStubs.Schema.Context
import ServiceStubs.Schema.Naming
import ServiceStubs.Schema.Rules.Number

/-!
# Rules for fields

What fields of messages and extensions have in common: options and features that fit their types,
defaults, and the entries of maps.
-/

namespace ServiceStubs.Schema

/-! ## Types -/

/-- Whether values of a scalar type can be packed together. -/
def Scalar.isPackable : Scalar → Bool
  | .text | .bytes => false
  | _ => true

/-- Whether a scalar type has 64-bit integers. -/
def Scalar.isLong : Scalar → Bool
  | .int64 | .uint64 | .sint64 | .fixed64 | .sfixed64 => true
  | _ => false

/-- Whether a scalar type can be the key of a map. -/
def Scalar.isKey : Scalar → Bool
  | .float | .double | .bytes => false
  | _ => true

namespace ResolvedType

/-- Whether values of a type can be packed together. -/
def isPackable : ResolvedType → Bool
  | .scalar type => type.isPackable
  | .message _ _ => false
  | .enumeration _ _ => true

/-- Whether a type is a message. -/
def isMessage : ResolvedType → Bool
  | .message _ _ => true
  | _ => false

/-- Whether a type is a text or a byte string. -/
def isString : ResolvedType → Bool
  | .scalar .text | .scalar .bytes => true
  | _ => false

/-- Whether a type is the entry of a map. -/
def isMapEntry : ResolvedType → Bool
  | .message _ definition => definition.isMapEntry
  | _ => false

end ResolvedType

/-- A field with all that is known of it: where it lies, what it stands for, its options and its
features. -/
structure FieldView where
  field : Field
  scope : FullName
  type : ResolvedType
  options : Record
  features : Features

namespace FieldView

/-- Whether a field is an extension. -/
def isExtension (view : FieldView) : Bool :=
  view.field.extendee.isSome

/-- Whether a field may occur several times. -/
def isRepeated (view : FieldView) : Bool :=
  view.field.label == .repeated

/-- Whether a message is written between marks instead of with its length. -/
def isDelimited (view : FieldView) : Bool :=
  view.type.isMessage && !view.type.isMapEntry &&
    (view.features.delimitsMessages ||
      match view.field.type with
      | .group _ => true
      | _ => false)

/-- Whether a field does not know whether it has been set. -/
def isImplicit (view : FieldView) : Bool :=
  !view.isRepeated && !view.type.isMessage && view.field.oneof.isNone && !view.isExtension &&
    view.features.presence == .implicit

/-! ## Options -/

/-- Whether the option `ctype` fits. It is checked from the first edition on. -/
def ctypeFits (dialect : Dialect) (view : FieldView) : Bool :=
  match view.options.choice? "ctype", dialect with
  | none, _ => true
  | some _, .edition2024 => false
  | some word, .edition2023 => view.type.isString && !(word == "CORD" && view.isExtension)
  | some _, _ => true

/-- Whether the options of a field fit its type. -/
def optionsFit (dialect : Dialect) (view : FieldView) : Bool :=
  let options := view.options
  let isLong := match view.type with
    | .scalar type => type.isLong
    | _ => false
  (!options.isTrue "packed" || (view.isRepeated && view.type.isPackable)) &&
  (!dialect.isEdition || !options.has "packed") &&
  ((!options.isTrue "lazy" && !options.isTrue "unverified_lazy") ||
    (view.type.isMessage && !view.isDelimited)) &&
  ((options.choice? "jstype").getD "JS_NORMAL" == "JS_NORMAL" || isLong) &&
  view.ctypeFits dialect

/-- Whether a map has texts as keys or values. -/
def isMapOfTexts (view : FieldView) : Bool :=
  match view.type with
  | .message _ definition =>
    view.type.isMapEntry && definition.fields.any fun field => field.type == .scalar .text
  | _ => false

/-- Whether the features that a field chooses itself fit it. -/
def chosenFeaturesFit (view : FieldView) : Bool :=
  let chosen := view.options.inner "features"
  let presence := view.features.presence
  (!chosen.has "field_presence" ||
    (view.field.oneof.isNone && !view.isRepeated &&
      (!view.isExtension || presence == .required) &&
      (!view.type.isMessage || presence != .implicit))) &&
  (!chosen.has "repeated_field_encoding" || view.isRepeated) &&
  (chosen.choice? "repeated_field_encoding" != some "PACKED" || view.type.isPackable) &&
  (!chosen.has "utf8_validation" || view.isMapOfTexts ||
    match view.type with
    | .scalar .text => true
    | _ => false) &&
  (!chosen.has "message_encoding" || view.type.isMessage)

/-- Whether the features of a field in an edition fit it. The fields of map entries nobody wrote
choose none themselves. -/
def featuresFit (context : Context) (view : FieldView) (isInEntry : Bool) : Bool :=
  !context.dialect.isEdition ||
    ((!view.isImplicit ||
        (view.field.default.isNone &&
          match view.type with
          | .enumeration entry _ => context.isOpen entry.name
          | _ => true)) &&
      (!view.isExtension || view.features.presence != .required) &&
      (isInEntry || view.chosenFeaturesFit))

/-! ## Defaults and dialects -/

/-- Whether the default of a field fits its type. -/
def defaultFits (dialect : Dialect) (view : FieldView) : Bool :=
  match view.field.default with
  | none => true
  | some value =>
    dialect != .proto3 && !view.isRepeated &&
      match view.type, value with
      | .scalar _, _ => true
      | .enumeration _ definition, .word name =>
        (definition.values.map EnumValue.name).contains name
      | _, _ => false

/-- Whether the dialect allows the label and the type of a field. The third version has no
required fields, no groups, and no enumerations of closed numbers. -/
def dialectAllows (context : Context) (view : FieldView) : Bool :=
  context.dialect != .proto3 ||
    (view.field.label != .required &&
      (match view.field.type with
        | .group _ => false
        | _ => true) &&
      match view.type with
      | .enumeration entry _ => context.isOpen entry.name
      | _ => true)

/-! ## Maps -/

/-- Whether a field of a map entry has its name, its number and its label. -/
def isEntryField (name : String) (number : Nat) (field : Field) : Bool :=
  field.name == name && field.number == number && field.label == .optional

/-- Whether a message can be the entry of a map: a key, which is of no floating, bytes or defined
type, and a value, which is of no enumeration that does not start with zero. -/
def isEntry (context : Context) (scope : FullName) (entry : Message) : Bool :=
  entry.nested.isEmpty && entry.enumerations.isEmpty && entry.extensions.isEmpty &&
    entry.extensionRanges.isEmpty &&
    match entry.fields with
    | [key, value] =>
      isEntryField "key" 1 key && isEntryField "value" 2 value &&
        (match context.type? scope key.type with
          | some (.scalar type) => type.isKey
          | _ => false) &&
        match context.type? scope value.type with
        | some (.enumeration _ definition) =>
          definition.values.head?.any fun first => first.number == 0
        | some _ => true
        | none => false
    | _ => false

/-- Whether a field of a map entry type has the entries that belong to it, which lie beside the
field. -/
def ownsEntries (context : Context) (view : FieldView) : Bool :=
  match view.type with
  | .message entry definition =>
    !view.type.isMapEntry ||
      (view.isRepeated && !view.isExtension &&
        entry.name == view.scope ++ [Reader.entryName view.field.name] &&
        isEntry context entry.name definition)
  | _ => true

/-- Whether the name of a field in the text format can be one, and whether an extension leaves it
as it is. -/
def jsonNameFits (view : FieldView) : Bool :=
  view.field.jsonName.all fun name =>
    !name.any (fun character => character.toNat == 0) &&
      (!view.isExtension || name == defaultJsonName view.field.name)

/-- Whether a field obeys the rules that fields share with extensions. -/
def isValid (context : Context) (view : FieldView) (isInEntry : Bool) : Bool :=
  view.optionsFit context.dialect && view.featuresFit context isInEntry &&
    view.defaultFits context.dialect && view.dialectAllows context &&
    view.ownsEntries context && view.jsonNameFits &&
    (!view.features.enforcesNaming || isLowerSnakeCase view.field.name)

end FieldView

/-- A field with all that is known of it. `around` are the features of what it lies in. -/
def Field.view? (context : Context) (scope : FullName) (around : Features) (field : Field) :
    Option FieldView := do
  let type ← context.type? scope field.type
  let options ← context.reader.options? .field scope field.settings
  return ⟨field, scope, type, options, around.override (options.inner "features")⟩

end ServiceStubs.Schema
