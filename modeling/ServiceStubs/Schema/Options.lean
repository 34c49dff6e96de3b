import ServiceStubs.Schema.Block

/-!
# Options

Options are fields of messages that describe what they are set on, one message for each kind of
definition. An option names such a field, or leads to a field of a message in it; extensions of
those messages are custom options. `OptionReader.record?` gives the record that the settings of a
definition stand for. Features are options like others here; what they mean is not said.
-/

namespace ServiceStubs.Schema

/-- What options are set on. -/
inductive OptionTarget where
  | file | message | field | oneof | extensionRange | enumeration | enumValue | service | method
  deriving DecidableEq, Repr

namespace OptionTarget

/-- The message whose fields are the options of a kind of definition. -/
def messageName (target : OptionTarget) : FullName :=
  ["google", "protobuf", match target with
    | .file => "FileOptions"
    | .message => "MessageOptions"
    | .field => "FieldOptions"
    | .oneof => "OneofOptions"
    | .extensionRange => "ExtensionRangeOptions"
    | .enumeration => "EnumOptions"
    | .enumValue => "EnumValueOptions"
    | .service => "ServiceOptions"
    | .method => "MethodOptions"]

/-- The word by which an option says that it may be set on a kind of definition. -/
def word : OptionTarget → String
  | .file => "TARGET_TYPE_FILE"
  | .message => "TARGET_TYPE_MESSAGE"
  | .field => "TARGET_TYPE_FIELD"
  | .oneof => "TARGET_TYPE_ONEOF"
  | .extensionRange => "TARGET_TYPE_EXTENSION_RANGE"
  | .enumeration => "TARGET_TYPE_ENUM"
  | .enumValue => "TARGET_TYPE_ENUM_ENTRY"
  | .service => "TARGET_TYPE_SERVICE"
  | .method => "TARGET_TYPE_METHOD"

end OptionTarget

/-! ## What an option says of its use -/

/-- The words that a plain option is set to. -/
def settingWords (name : String) (settings : List Setting) : List String :=
  settings.filterMap fun setting =>
    match setting.value with
    | .word word => if setting.name = [.plain name] then some word else none
    | _ => none

/-- Whether a truth option is set to true. -/
def isSetTrue (name : String) (settings : List Setting) : Bool :=
  settings.contains ⟨[.plain name], .word "true"⟩

/-- The word after a name and a colon among tokens. -/
def wordAfter (name : String) : List Token → Option String
  | .identifier key :: .symbol ':' :: .identifier word :: rest =>
    if key = name then some word else wordAfter name rest
  | _ :: rest => wordAfter name rest
  | [] => none

/-- The word that a field of an option is set to, by its path or in a block. -/
def innerWord? (option name : String) (settings : List Setting) : Option String :=
  settings.findSome? fun setting =>
    match setting.value with
    | .word word =>
      if setting.name = [.plain option, .plain name] then some word else none
    | .block tokens => if setting.name = [.plain option] then wordAfter name tokens else none
    | _ => none

/-- The place of an edition among all of them, by its word. -/
def editionRank : String → Nat
  | "EDITION_LEGACY" => 900
  | "EDITION_PROTO2" => Dialect.proto2.rank
  | "EDITION_PROTO3" => Dialect.proto3.rank
  | "EDITION_2023" => Dialect.edition2023.rank
  | "EDITION_2024" => Dialect.edition2024.rank
  | "EDITION_UNSTABLE" => 9999
  | "EDITION_99997_TEST_ONLY" => 99997
  | "EDITION_99998_TEST_ONLY" => 99998
  | "EDITION_99999_TEST_ONLY" => 99999
  | "EDITION_MAX" => 2147483647
  | "EDITION_2_TEST_ONLY" => 2
  | "EDITION_1_TEST_ONLY" => 1
  | _ => 0

/-- Whether a dialect lies in the time for which settings support what they belong to. -/
def isSupported (dialect : Dialect) (settings : List Setting) : Bool :=
  ((innerWord? "feature_support" "edition_introduced" settings).all fun word =>
    editionRank word ≤ dialect.rank) &&
  (innerWord? "feature_support" "edition_removed" settings).all fun word =>
    dialect.rank < editionRank word

/-- Whether settings let a field be used as an option of a kind of definition. -/
def targetsHold (target : OptionTarget) (settings : List Setting) : Bool :=
  let targets := settingWords "targets" settings
  targets.isEmpty || targets.contains target.word

/-! ## Reading options -/

/-- What options of a file are read with: its dialect, the definitions, and the symbols that
options of the file see. -/
structure OptionReader where
  dialect : Dialect
  catalog : Catalog
  entries : List Entry

namespace OptionReader

/-- The extension that a name stands for in a scope. -/
def extension? (reader : OptionReader) (scope : FullName) (name : TypeName) :
    Option KnownExtension := do
  reader.catalog.extension? (← resolve reader.entries false scope name).name

/-- The rules for values of options of a kind of definition. A name in a block is searched from
around the message that it is used in. -/
def rules (reader : OptionReader) (target : OptionTarget) : ValueRules where
  catalog := reader.catalog
  extension? message name := reader.extension? message.dropLast name
  allowsField field :=
    isSupported reader.dialect field.settings && targetsHold target field.settings
  allowsValue value := isSupported reader.dialect value.settings

/-- The field of a message that a part of an option's name stands for, with its key. -/
def field? (reader : OptionReader) (scope message : FullName) :
    OptionPart → Option (String × KnownField)
  | .plain name => do
    let known ← reader.catalog.message? message
    let field ← known.fields.find? fun field => field.name == name
    return (field.name, field)
  | .extension name => do
    let extension ← reader.extension? scope name
    if extension.extendee = message then some (extension.key, extension.field) else none

/-- The datum of a whole number, if it is between the limits. -/
def within (lowest highest : Int) (value : Int) : Option Datum :=
  if lowest ≤ value ∧ value ≤ highest then some (.integer value) else none

/-- A written value as one of a scalar type. -/
def scalarDatum? (scalar : Scalar) (value : OptionValue) : Option Datum :=
  match scalar, value with
  | .int32, .integer value | .sint32, .integer value | .sfixed32, .integer value =>
    within (-2147483648) 2147483647 value
  | .int64, .integer value | .sint64, .integer value | .sfixed64, .integer value =>
    within (-9223372036854775808) 9223372036854775807 value
  | .uint32, .integer value | .fixed32, .integer value => within 0 4294967295 value
  | .uint64, .integer value | .fixed64, .integer value => within 0 18446744073709551615 value
  | .float, .integer _ | .double, .integer _ | .float, .real | .double, .real => some .real
  | .float, .word name | .double, .word name =>
    if name = "inf" ∨ name = "nan" then some .real else none
  | .bool, .word "true" => some (.truth true)
  | .bool, .word "false" => some (.truth false)
  | .text, .text content | .bytes, .text content => some (.text content)
  | _, _ => none

/-- A written value as one of a field. -/
def datum? (rules : ValueRules) (field : KnownField) (value : OptionValue) : Option Datum :=
  match field.type, value with
  | .scalar scalar, value => scalarDatum? scalar value
  | .enumeration name, .word word => rules.choiceOfName? name word
  | .message name, .block tokens => (rules.recordOf? name tokens).map Datum.record
  | _, _ => none

/-- A record with one more option set, whose name leads from a message to a field. On the way lie
messages that are not repeated. -/
def assign (reader : OptionReader) (target : OptionTarget) (scope : FullName)
    (value : OptionValue) (message : FullName) (record : Record) :
    List OptionPart → Option Record
  | [] => none
  | [last] => do
    let (key, field) ← reader.field? scope message last
    let rules := reader.rules target
    if !rules.allowsField field || (field.label != .repeated && record.has key) then none
    else return record ++ [(key, ← datum? rules field value)]
  | part :: parts => do
    let (key, field) ← reader.field? scope message part
    if !(reader.rules target).allowsField field || field.label == .repeated then none
    else
      match field.type with
      | .message name =>
        return record.setInner key
          (← reader.assign target scope value name (record.inner key) parts)
      | _ => none

/-- The record that settings stand for; names in them are searched from the scope outwards. -/
def record? (reader : OptionReader) (target : OptionTarget) (scope : FullName)
    (settings : List Setting) : Option Record :=
  settings.foldlM
    (fun record setting =>
      if setting.name.head? = some (.plain "uninterpreted_option") then none
      else reader.assign target scope setting.value target.messageName record setting.name)
    []

end OptionReader

end ServiceStubs.Schema
