import ServiceStubs.Schema.Rules.Declared

/-!
# The rules of schema files

What a file has to obey beyond the grammar. The rules on numbers, reserved names and enumerations
look at one definition at a time; the rules on types look names up among the symbols that are
visible in the file. Features are handed down from what lies around a definition. `File.isValid`
puts the rules together. That complete names are not defined twice is a rule of a set of files and
not stated here.
-/

namespace ServiceStubs.Schema

/-! ## Enumerations -/

/-- Whether the values of an enumeration have different numbers, unless it allows others. -/
def Enumeration.numbersAreDistinct (enumeration : Enumeration) (options : Record) : Bool :=
  options.isTrue "allow_alias" || (enumeration.values.map EnumValue.number).Nodup

/-- Whether values that differ only in the way they are spelled have one number. The second version
can turn this rule off. -/
def Enumeration.shortNamesAgree (dialect : Dialect) (enumeration : Enumeration)
    (options : Record) : Bool :=
  (dialect == .proto2 && options.isTrue "deprecated_legacy_json_field_conflicts") ||
  enumeration.values.all fun left =>
    enumeration.values.all fun right =>
      left.number == right.number ||
        shortValueName enumeration.name left.name != shortValueName enumeration.name right.name

/-- Whether a value of an enumeration obeys the rules; the scope is that around the
enumeration. -/
def EnumValue.isValid (context : Context) (scope : FullName) (around : Features)
    (enumeration : Enumeration) (value : EnumValue) : Bool :=
  !enumeration.reservedRanges.any (NumberRange.holds · value.number) &&
    !enumeration.reservedNames.contains value.name &&
    match context.reader.options? .enumValue scope value.settings with
    | none => false
    | some options =>
      !(around.override (options.inner "features")).enforcesNaming || isUpperSnakeCase value.name

/-- Whether an enumeration obeys the rules; the scope is that around it. -/
def Enumeration.isValid (context : Context) (scope : FullName) (around : Features)
    (enumeration : Enumeration) : Bool :=
  match context.reader.options? .enumeration scope enumeration.settings with
  | none => false
  | some options =>
    let features := around.override (options.inner "features")
    (match enumeration.values with
      | [] => false
      | first :: _ => !features.hasOpenEnumerations || first.number == 0) &&
    enumeration.numbersAreDistinct options &&
    enumeration.shortNamesAgree context.dialect options &&
    enumeration.reservedRanges.all NumberRange.isForward &&
    areDisjoint enumeration.reservedRanges && enumeration.reservedNames.Nodup &&
    enumeration.values.all (EnumValue.isValid context scope features enumeration) &&
    (!features.enforcesNaming || isTitleCase enumeration.name)

/-! ## Names in the text format -/

/-- The name of a field in the text format, and whether it is given and not the default one. -/
def jsonName (useGiven : Bool) (field : Field) : List Char × Bool :=
  let default := defaultJsonName field.name
  match field.jsonName with
  | some name => if useGiven ∧ name ≠ default then (name, true) else (default, false)
  | none => (default, false)

/-- Whether a given name looks like the name of an extension. -/
def looksLikeExtension (name : List Char) : Bool :=
  name.head? == some '[' && name.getLast? == some ']'

/-- Whether names in the text format get along, where `earlier` are those of the fields before. A
name that is taken by an earlier field is refused if names are held to strictly or if both names
are given. -/
def jsonNamesAgree (isStrict : Bool) (earlier : List (List Char × Bool)) :
    List (List Char × Bool) → Bool
  | [] => true
  | (name, isGiven) :: rest =>
    !(isGiven && looksLikeExtension name) &&
      match earlier.find? fun other => other.1 == name with
      | none => jsonNamesAgree isStrict (earlier ++ [(name, isGiven)]) rest
      | some other =>
        !isStrict && !(isGiven && other.2) && jsonNamesAgree isStrict earlier rest

/-- Whether the fields of a message have names in the text format that get along, both with and
without the names that are given. -/
def Message.jsonNamesFit (message : Message) (options : Record) (features : Features) : Bool :=
  options.isTrue "deprecated_legacy_json_field_conflicts" ||
    (jsonNamesAgree features.hasStrictJsonNames [] (message.fields.map (jsonName false)) &&
      jsonNamesAgree features.hasStrictJsonNames [] (message.fields.map (jsonName true)))

/-! ## Messages -/

/-- Whether the numbers and names that a message reserves, opens and uses do not collide. -/
def Message.numbersAreValid (message : Message) (options : Record) : Bool :=
  let limit :=
    if options.isTrue "message_set_wire_format" then largestSetNumber else largestNumber
  message.reservedRanges.all (fun range => 1 ≤ range.first && range.isForward) &&
  message.openRanges.all (fun range =>
    1 ≤ range.first && range.isForward && range.last ≤ limit) &&
  areDisjoint (message.reservedRanges ++ message.openRanges) &&
  message.reservedNames.Nodup && (message.fields.map Field.number).Nodup &&
  message.fields.all fun field =>
    isFieldNumber field.number &&
      !(message.reservedRanges ++ message.openRanges).any (NumberRange.holds · field.number) &&
      !message.reservedNames.contains field.name

/-- Whether the options of the ranges that a message opens obey the rules. -/
def Message.rangesAreValid (context : Context) (scope : FullName) (message : Message) : Bool :=
  match message.extensionRanges.mapM fun range =>
      context.reader.options? .extensionRange scope range.settings with
  | none => false
  | some options =>
    declarationsDiffer options &&
      (message.extensionRanges.zip options).all fun entry => declarationsFit entry.1.range entry.2

/-- Whether the dialect allows what a message opens, and a set of messages has no fields. -/
def Message.kindAllows (dialect : Dialect) (message : Message) (options : Record) : Bool :=
  let isSet := options.isTrue "message_set_wire_format"
  (dialect != .proto3 || (message.extensionRanges.isEmpty && !isSet)) &&
    (!isSet || message.fields.isEmpty)

/-- The features of a choice in a message, if its options can be understood. -/
def Oneof.features? (context : Context) (scope : FullName) (around : Features) (oneof : Oneof) :
    Option Features := do
  let options ← context.reader.options? .oneof scope oneof.settings
  return around.override (options.inner "features")

/-- Whether a choice obeys the rules; the scope is the complete name of its message. -/
def Oneof.isValid (context : Context) (scope : FullName) (around : Features) (oneof : Oneof) :
    Bool :=
  !oneof.isEmpty &&
    match oneof.features? context scope around with
    | none => false
    | some features => !features.enforcesNaming || isLowerSnakeCase oneof.name

/-- The features around a field: those of its choice, or those of its message. -/
def Message.featuresAround (context : Context) (scope : FullName) (features : Features)
    (message : Message) (field : Field) : Features :=
  ((message.oneofs.find? fun oneof => some oneof.name == field.oneof).bind
    (Oneof.features? context scope features)).getD features

/-- Whether a field of a message obeys the rules. -/
def Message.fieldIsValid (context : Context) (scope : FullName) (features : Features)
    (message : Message) (field : Field) : Bool :=
  match field.view? context scope (message.featuresAround context scope features field) with
  | none => false
  | some view => view.isValid context message.isMapEntry

/-- Whether a nested definition says of being seen what it may say. Where visibility is strict,
nothing that is nested is exported. -/
def Message.visibilityFits (features : Features) (message : Message) : Bool :=
  features.defaultVisibility != .strict ||
    (message.nested.all (fun inner => inner.visibility != some .exported) &&
      message.enumerations.all fun inner => inner.visibility != some .exported)

/-! ## Extensions -/

/-- Messages that the third version can extend: those whose fields are options. -/
def isOptionMessage (name : FullName) : Bool :=
  match name with
  | ["google", "protobuf", last] =>
    ["FileOptions", "MessageOptions", "FieldOptions", "OneofOptions", "EnumOptions",
      "EnumValueOptions", "ServiceOptions", "MethodOptions", "ExtensionRangeOptions",
      "StreamOptions", "FeatureSet"].contains last
  | _ => false

/-- The complete name of the message that an extension extends. -/
def Field.extendedName (context : Context) (scope : FullName) (field : Field) :
    Option FullName := do
  return (← context.message? scope (← field.extendee)).1.name

/-- Whether an extension gets along with the message that it extends. -/
def FieldView.fitsExtendee (context : Context) (view : FieldView) (entry : Entry)
    (extendee : Message) : Bool :=
  let isSet := isSetTrue "message_set_wire_format" extendee.settings
  (match extendee.extensionRanges.find? fun range => range.range.holds view.field.number with
    | none => false
    | some range => entry.origin.path == descriptionPath || view.isDeclaredIn range) &&
  (context.dialect != .proto3 || isOptionMessage entry.name) &&
  (!context.isLite || isLite entry.origin.settings) &&
  (!isSet || (view.field.label == .optional && view.type.isMessage && !view.isDelimited))

/-- Whether an extension obeys the rules. -/
def Field.isValidExtension (context : Context) (scope : FullName) (around : Features)
    (field : Field) : Bool :=
  field.label != .required && isExtensionNumber field.number &&
    match field.view? context scope around, field.extendee.bind (context.message? scope) with
    | some view, some (entry, extendee) =>
      view.isValid context false && view.fitsExtendee context entry extendee
    | _, _ => false

/-! ## All of a message -/

/-- Whether a message obeys the rules, with all that lies in it; the scope is that around the
message. Only a map field makes the entries of a map. -/
def Message.isValid (context : Context) (scope : FullName) (around : Features)
    (message : Message) : Bool :=
  match context.reader.options? .message scope message.settings with
  | none => false
  | some options =>
    let name := scope ++ [message.name]
    let features := around.override (options.inner "features")
    message.numbersAreValid options && message.rangesAreValid context scope &&
    message.kindAllows context.dialect options && message.jsonNamesFit options features &&
    message.fields.all (message.fieldIsValid context name features) &&
    message.oneofs.all (Oneof.isValid context name features) &&
    (!message.isMapEntry || FieldView.isEntry context name message) &&
    !options.isTrue "map_entry" &&
    message.visibilityFits features &&
    (!features.enforcesNaming || isTitleCase message.name) &&
    message.enumerations.all (Enumeration.isValid context name features) &&
    message.extensions.all (Field.isValidExtension context name features) &&
    message.nested.attach.all fun ⟨inner, _⟩ => inner.isValid context name features
termination_by sizeOf message
decreasing_by
  rename_i member
  have smaller := List.sizeOf_lt_of_mem member
  cases message
  simp only [Message.mk.sizeOf_spec] at *
  omega

/-! ## Services and files -/

/-- Whether a method obeys the rules; the scope is the complete name of its service. -/
def Method.isValid (context : Context) (scope : FullName) (around : Features)
    (method : Method) : Bool :=
  (context.message? scope method.input).isSome && (context.message? scope method.output).isSome &&
    match context.reader.options? .method scope method.settings with
    | none => false
    | some options =>
      !(around.override (options.inner "features")).enforcesNaming || isTitleCase method.name

/-- Whether a service obeys the rules; the scope is that around it. -/
def Service.isValid (context : Context) (scope : FullName) (around : Features)
    (service : Service) : Bool :=
  match context.reader.options? .service scope service.settings with
  | none => false
  | some options =>
    let features := around.override (options.inner "features")
    service.methods.all (Method.isValid context (scope ++ [service.name]) features) &&
      (!features.enforcesNaming || isTitleCase service.name)

/-- The length of the longest package name. -/
def longestPackage : Nat := 511

/-- Whether the options of a file obey the rules. A file for the small runtime has no generic
services. -/
def File.optionsFit (file : File) (options : Record) (features : Features) : Bool :=
  (!file.dialect.isEdition ||
    (features.presence != .required && !options.isTrue "java_string_check_utf8")) &&
  (options.choice? "optimize_for" != some "LITE_RUNTIME" || file.services.isEmpty ||
    (!options.isTrue "cc_generic_services" && !options.isTrue "java_generic_services"))

/-- Whether no two extensions in a file have one number in the same message. -/
def File.extensionNumbersDiffer (file : File) (context : Context) : Bool :=
  (file.allExtensions.map fun entry =>
    (entry.2.extendedName context entry.1, entry.2.number)).Nodup

/-- Whether a file obeys the rules. -/
def File.isValid (file : File) (context : Context) : Bool :=
  match context.reader.options? .file file.scope file.settings with
  | none => false
  | some options =>
    let features := (Features.ofDialect file.dialect).override (options.inner "features")
    file.optionsFit options features &&
    (String.intercalate "." file.scope).length ≤ longestPackage &&
    (!features.enforcesNaming || file.scope.all isLowerSnakeCase) &&
    file.messages.all (Message.isValid context file.scope features) &&
    file.enumerations.all (Enumeration.isValid context file.scope features) &&
    file.extensions.all (Field.isValidExtension context file.scope features) &&
    file.services.all (Service.isValid context file.scope features) &&
    file.extensionNumbersDiffer context

/-- Whether an enumeration of a file also stands for numbers that it does not list. -/
def File.isOpen (file : File) (reader : OptionReader) (enumeration : Enumeration) : Bool :=
  let around := reader.features .file file.scope (Features.ofDialect file.dialect)
    (featureSettings file.settings)
  (reader.features .enumeration file.scope around
    (featureSettings enumeration.settings)).hasOpenEnumerations

end ServiceStubs.Schema
