import ServiceStubs.Schema.WellKnown.Builder

/-!
# The description of schema files

The schema of schemas: the messages that describe files, and the messages whose fields are the
options that definitions know.
-/

namespace ServiceStubs.Schema.WellKnown

/-- The enumeration `Edition`. -/
def edition : Enumeration :=
  choices "Edition" [
    ("EDITION_UNKNOWN", 0), ("EDITION_LEGACY", 900), ("EDITION_PROTO2", 998),
    ("EDITION_PROTO3", 999), ("EDITION_2023", 1000), ("EDITION_2024", 1001),
    ("EDITION_UNSTABLE", 9999), ("EDITION_1_TEST_ONLY", 1), ("EDITION_2_TEST_ONLY", 2),
    ("EDITION_99997_TEST_ONLY", 99997), ("EDITION_99998_TEST_ONLY", 99998),
    ("EDITION_99999_TEST_ONLY", 99999), ("EDITION_MAX", 2147483647)]

/-- The enumeration `SymbolVisibility`. -/
def symbolVisibility : Enumeration :=
  choices "SymbolVisibility" [
    ("VISIBILITY_UNSET", 0), ("VISIBILITY_LOCAL", 1), ("VISIBILITY_EXPORT", 2)]

/-- The message `FileDescriptorSet`. -/
def fileDescriptorSet : Message :=
  { name := "FileDescriptorSet"
    fields := [many "file" 1 (named "FileDescriptorProto")]
    extensionRanges := [⟨⟨536000000, 536000000⟩, []⟩] }

/-- The message `FileDescriptorProto`. -/
def fileDescriptorProto : Message :=
  { name := "FileDescriptorProto"
    fields := [
      one "name" 1 text, one "package" 2 text, many "dependency" 3 text,
      many "public_dependency" 10 int32, many "weak_dependency" 11 int32,
      many "option_dependency" 15 text, many "message_type" 4 (named "DescriptorProto"),
      many "enum_type" 5 (named "EnumDescriptorProto"),
      many "service" 6 (named "ServiceDescriptorProto"),
      many "extension" 7 (named "FieldDescriptorProto"),
      one "options" 8 (named "FileOptions"),
      one "source_code_info" 9 (named "SourceCodeInfo"), one "syntax" 12 text,
      one "edition" 14 (named "Edition")] }

/-- The message `DescriptorProto`. -/
def descriptorProto : Message :=
  { name := "DescriptorProto"
    fields := [
      one "name" 1 text, many "field" 2 (named "FieldDescriptorProto"),
      many "extension" 6 (named "FieldDescriptorProto"),
      many "nested_type" 3 (named "DescriptorProto"),
      many "enum_type" 4 (named "EnumDescriptorProto"),
      many "extension_range" 5 (named "ExtensionRange"),
      many "oneof_decl" 8 (named "OneofDescriptorProto"),
      one "options" 7 (named "MessageOptions"),
      many "reserved_range" 9 (named "ReservedRange"), many "reserved_name" 10 text,
      one "visibility" 11 (named "SymbolVisibility")]
    nested := [
      { name := "ExtensionRange"
        fields := [
          one "start" 1 int32, one "end" 2 int32,
          one "options" 3 (named "ExtensionRangeOptions")] },
      { name := "ReservedRange"
        fields := [one "start" 1 int32, one "end" 2 int32] }] }

/-- The message `ExtensionRangeOptions`. -/
def extensionRangeOptions : Message :=
  { name := "ExtensionRangeOptions"
    fields := [
      many "declaration" 2 (named "Declaration"), one "features" 50 (named "FeatureSet"),
      one "verification" 3 (named "VerificationState"),
      many "uninterpreted_option" 999 (named "UninterpretedOption")]
    nested := [
      { name := "Declaration"
        fields := [
          one "number" 1 int32, one "full_name" 2 text, one "type" 3 text,
          one "reserved" 5 truth, one "repeated" 6 truth] }]
    enumerations := [
      choices "VerificationState" [("DECLARATION", 0), ("UNVERIFIED", 1)]]
    extensionRanges := [⟨⟨1000, 536870911⟩, []⟩] }

/-- The message `FieldDescriptorProto`. -/
def fieldDescriptorProto : Message :=
  { name := "FieldDescriptorProto"
    fields := [
      one "name" 1 text, one "number" 3 int32, one "label" 4 (named "Label"),
      one "type" 5 (named "Type"), one "type_name" 6 text, one "extendee" 2 text,
      one "default_value" 7 text, one "oneof_index" 9 int32, one "json_name" 10 text,
      one "options" 8 (named "FieldOptions"), one "proto3_optional" 17 truth]
    enumerations := [
      choices "Type" [
        ("TYPE_DOUBLE", 1), ("TYPE_FLOAT", 2), ("TYPE_INT64", 3), ("TYPE_UINT64", 4),
        ("TYPE_INT32", 5), ("TYPE_FIXED64", 6), ("TYPE_FIXED32", 7), ("TYPE_BOOL", 8),
        ("TYPE_STRING", 9), ("TYPE_GROUP", 10), ("TYPE_MESSAGE", 11), ("TYPE_BYTES", 12),
        ("TYPE_UINT32", 13), ("TYPE_ENUM", 14), ("TYPE_SFIXED32", 15),
        ("TYPE_SFIXED64", 16), ("TYPE_SINT32", 17), ("TYPE_SINT64", 18)],
      choices "Label" [
        ("LABEL_OPTIONAL", 1), ("LABEL_REPEATED", 3), ("LABEL_REQUIRED", 2)]] }

/-- The message `OneofDescriptorProto`. -/
def oneofDescriptorProto : Message :=
  { name := "OneofDescriptorProto"
    fields := [
      one "name" 1 text, one "options" 2 (named "OneofOptions")] }

/-- The message `EnumDescriptorProto`. -/
def enumDescriptorProto : Message :=
  { name := "EnumDescriptorProto"
    fields := [
      one "name" 1 text, many "value" 2 (named "EnumValueDescriptorProto"),
      one "options" 3 (named "EnumOptions"),
      many "reserved_range" 4 (named "EnumReservedRange"), many "reserved_name" 5 text,
      one "visibility" 6 (named "SymbolVisibility")]
    nested := [
      { name := "EnumReservedRange"
        fields := [one "start" 1 int32, one "end" 2 int32] }] }

/-- The message `EnumValueDescriptorProto`. -/
def enumValueDescriptorProto : Message :=
  { name := "EnumValueDescriptorProto"
    fields := [
      one "name" 1 text, one "number" 2 int32, one "options" 3 (named "EnumValueOptions")] }

/-- The message `ServiceDescriptorProto`. -/
def serviceDescriptorProto : Message :=
  { name := "ServiceDescriptorProto"
    fields := [
      one "name" 1 text, many "method" 2 (named "MethodDescriptorProto"),
      one "options" 3 (named "ServiceOptions")] }

/-- The message `MethodDescriptorProto`. -/
def methodDescriptorProto : Message :=
  { name := "MethodDescriptorProto"
    fields := [
      one "name" 1 text, one "input_type" 2 text, one "output_type" 3 text,
      one "options" 4 (named "MethodOptions"), one "client_streaming" 5 truth,
      one "server_streaming" 6 truth] }

/-- The message `FileOptions`. -/
def fileOptions : Message :=
  { name := "FileOptions"
    fields := [
      one "java_package" 1 text, one "java_outer_classname" 8 text,
      (one "java_multiple_files" 10 truth).removedIn "EDITION_2024",
      one "java_generate_equals_and_hash" 20 truth, one "java_string_check_utf8" 27 truth,
      one "optimize_for" 9 (named "OptimizeMode"), one "go_package" 11 text,
      one "cc_generic_services" 16 truth, one "java_generic_services" 17 truth,
      one "py_generic_services" 18 truth, one "deprecated" 23 truth,
      one "cc_enable_arenas" 31 truth, one "objc_class_prefix" 36 text,
      one "csharp_namespace" 37 text, one "swift_prefix" 39 text,
      one "php_class_prefix" 40 text, one "php_namespace" 41 text,
      one "php_metadata_namespace" 44 text, one "ruby_package" 45 text,
      one "features" 50 (named "FeatureSet"),
      many "uninterpreted_option" 999 (named "UninterpretedOption")]
    enumerations := [
      choices "OptimizeMode" [("SPEED", 1), ("CODE_SIZE", 2), ("LITE_RUNTIME", 3)]]
    extensionRanges := [⟨⟨1000, 536870911⟩, []⟩] }

/-- The message `MessageOptions`. -/
def messageOptions : Message :=
  { name := "MessageOptions"
    fields := [
      one "message_set_wire_format" 1 truth, one "no_standard_descriptor_accessor" 2 truth,
      one "deprecated" 3 truth, one "map_entry" 7 truth,
      one "deprecated_legacy_json_field_conflicts" 11 truth,
      one "features" 12 (named "FeatureSet"),
      many "uninterpreted_option" 999 (named "UninterpretedOption")]
    extensionRanges := [⟨⟨1000, 536870911⟩, []⟩] }

/-- The message `FieldOptions`. -/
def fieldOptions : Message :=
  { name := "FieldOptions"
    fields := [
      one "ctype" 1 (named "CType"), one "packed" 2 truth, one "jstype" 6 (named "JSType"),
      one "lazy" 5 truth, one "unverified_lazy" 15 truth, one "deprecated" 3 truth,
      one "weak" 10 truth, one "debug_redact" 16 truth,
      one "retention" 17 (named "OptionRetention"),
      many "targets" 19 (named "OptionTargetType"),
      many "edition_defaults" 20 (named "EditionDefault"),
      one "features" 21 (named "FeatureSet"),
      one "feature_support" 22 (named "FeatureSupport"),
      many "uninterpreted_option" 999 (named "UninterpretedOption")]
    nested := [
      { name := "EditionDefault"
        fields := [
          one "edition" 3 (named "Edition"), one "value" 2 text] },
      { name := "FeatureSupport"
        fields := [
          one "edition_introduced" 1 (named "Edition"),
          one "edition_deprecated" 2 (named "Edition"), one "deprecation_warning" 3 text,
          one "edition_removed" 4 (named "Edition"), one "removal_error" 5 text] }]
    enumerations := [
      choices "CType" [("STRING", 0), ("CORD", 1), ("STRING_PIECE", 2)],
      choices "JSType" [("JS_NORMAL", 0), ("JS_STRING", 1), ("JS_NUMBER", 2)],
      choices "OptionRetention" [
        ("RETENTION_UNKNOWN", 0), ("RETENTION_RUNTIME", 1), ("RETENTION_SOURCE", 2)],
      choices "OptionTargetType" [
        ("TARGET_TYPE_UNKNOWN", 0), ("TARGET_TYPE_FILE", 1),
        ("TARGET_TYPE_EXTENSION_RANGE", 2), ("TARGET_TYPE_MESSAGE", 3),
        ("TARGET_TYPE_FIELD", 4), ("TARGET_TYPE_ONEOF", 5), ("TARGET_TYPE_ENUM", 6),
        ("TARGET_TYPE_ENUM_ENTRY", 7), ("TARGET_TYPE_SERVICE", 8),
        ("TARGET_TYPE_METHOD", 9)]]
    extensionRanges := [⟨⟨1000, 536870911⟩, []⟩] }

/-- The message `OneofOptions`. -/
def oneofOptions : Message :=
  { name := "OneofOptions"
    fields := [
      one "features" 1 (named "FeatureSet"),
      many "uninterpreted_option" 999 (named "UninterpretedOption")]
    extensionRanges := [⟨⟨1000, 536870911⟩, []⟩] }

/-- The message `EnumOptions`. -/
def enumOptions : Message :=
  { name := "EnumOptions"
    fields := [
      one "allow_alias" 2 truth, one "deprecated" 3 truth,
      one "deprecated_legacy_json_field_conflicts" 6 truth,
      one "features" 7 (named "FeatureSet"),
      many "uninterpreted_option" 999 (named "UninterpretedOption")]
    extensionRanges := [⟨⟨1000, 536870911⟩, []⟩] }

/-- The message `EnumValueOptions`. -/
def enumValueOptions : Message :=
  { name := "EnumValueOptions"
    fields := [
      one "deprecated" 1 truth, one "features" 2 (named "FeatureSet"),
      one "debug_redact" 3 truth,
      one "feature_support" 4 (named "FieldOptions.FeatureSupport"),
      many "uninterpreted_option" 999 (named "UninterpretedOption")]
    extensionRanges := [⟨⟨1000, 536870911⟩, []⟩] }

/-- The message `ServiceOptions`. -/
def serviceOptions : Message :=
  { name := "ServiceOptions"
    fields := [
      one "features" 34 (named "FeatureSet"), one "deprecated" 33 truth,
      many "uninterpreted_option" 999 (named "UninterpretedOption")]
    extensionRanges := [⟨⟨1000, 536870911⟩, []⟩] }

/-- The message `MethodOptions`. -/
def methodOptions : Message :=
  { name := "MethodOptions"
    fields := [
      one "deprecated" 33 truth, one "idempotency_level" 34 (named "IdempotencyLevel"),
      one "features" 35 (named "FeatureSet"),
      many "uninterpreted_option" 999 (named "UninterpretedOption")]
    enumerations := [
      choices "IdempotencyLevel" [
        ("IDEMPOTENCY_UNKNOWN", 0), ("NO_SIDE_EFFECTS", 1), ("IDEMPOTENT", 2)]]
    extensionRanges := [⟨⟨1000, 536870911⟩, []⟩] }

/-- The message `UninterpretedOption`. -/
def uninterpretedOption : Message :=
  { name := "UninterpretedOption"
    fields := [
      many "name" 2 (named "NamePart"), one "identifier_value" 3 text,
      one "positive_int_value" 4 uint64, one "negative_int_value" 5 int64,
      one "double_value" 6 double, one "string_value" 7 bytes, one "aggregate_value" 8 text]
    nested := [
      { name := "NamePart"
        fields := [
          needed "name_part" 1 text, needed "is_extension" 2 truth] }] }

/-- The message `FeatureSet`. -/
def featureSet : Message :=
  { name := "FeatureSet"
    fields := [
      feature "field_presence" 1 (named "FieldPresence") "EDITION_2023"
          ["FIELD", "FILE"],
      feature "enum_type" 2 (named "EnumType") "EDITION_2023" ["ENUM", "FILE"],
      feature "repeated_field_encoding" 3 (named "RepeatedFieldEncoding") "EDITION_2023"
          ["FIELD", "FILE"],
      feature "utf8_validation" 4 (named "Utf8Validation") "EDITION_2023"
          ["FIELD", "FILE"],
      feature "message_encoding" 5 (named "MessageEncoding") "EDITION_2023"
          ["FIELD", "FILE"],
      feature "json_format" 6 (named "JsonFormat") "EDITION_2023"
          ["MESSAGE", "ENUM", "FILE"],
      feature "enforce_naming_style" 7 (named "EnforceNamingStyle") "EDITION_2024"
          ["FILE", "EXTENSION_RANGE", "MESSAGE", "FIELD", "ONEOF",
            "ENUM", "ENUM_ENTRY", "SERVICE", "METHOD"],
      feature "default_symbol_visibility" 8 (named "VisibilityFeature.DefaultSymbolVisibility")
        "EDITION_2024" ["FILE"]]
    nested := [
      { name := "VisibilityFeature"
        enumerations := [
          choices "DefaultSymbolVisibility" [
            ("DEFAULT_SYMBOL_VISIBILITY_UNKNOWN", 0), ("EXPORT_ALL", 1),
            ("EXPORT_TOP_LEVEL", 2), ("LOCAL_ALL", 3), ("STRICT", 4)]] }]
    enumerations := [
      choices "FieldPresence" [
        ("FIELD_PRESENCE_UNKNOWN", 0), ("EXPLICIT", 1), ("IMPLICIT", 2),
        ("LEGACY_REQUIRED", 3)],
      choices "EnumType" [("ENUM_TYPE_UNKNOWN", 0), ("OPEN", 1), ("CLOSED", 2)],
      choices "RepeatedFieldEncoding" [
        ("REPEATED_FIELD_ENCODING_UNKNOWN", 0), ("PACKED", 1), ("EXPANDED", 2)],
      choices "Utf8Validation" [
        ("UTF8_VALIDATION_UNKNOWN", 0), ("VERIFY", 2), ("NONE", 3)],
      choices "MessageEncoding" [
        ("MESSAGE_ENCODING_UNKNOWN", 0), ("LENGTH_PREFIXED", 1), ("DELIMITED", 2)],
      choices "JsonFormat" [
        ("JSON_FORMAT_UNKNOWN", 0), ("ALLOW", 1), ("LEGACY_BEST_EFFORT", 2)],
      choices "EnforceNamingStyle" [
        ("ENFORCE_NAMING_STYLE_UNKNOWN", 0), ("STYLE2024", 1), ("STYLE_LEGACY", 2)]]
    extensionRanges := [⟨⟨1000, 9994⟩, []⟩, ⟨⟨9995, 9999⟩, []⟩, ⟨⟨10000, 10000⟩, []⟩] }

/-- The message `FeatureSetDefaults`. -/
def featureSetDefaults : Message :=
  { name := "FeatureSetDefaults"
    fields := [
      many "defaults" 1 (named "FeatureSetEditionDefault"),
      one "minimum_edition" 4 (named "Edition"), one "maximum_edition" 5 (named "Edition")]
    nested := [
      { name := "FeatureSetEditionDefault"
        fields := [
          one "edition" 3 (named "Edition"),
          one "overridable_features" 4 (named "FeatureSet"),
          one "fixed_features" 5 (named "FeatureSet")] }] }

/-- The message `SourceCodeInfo`. -/
def sourceCodeInfo : Message :=
  { name := "SourceCodeInfo"
    fields := [many "location" 1 (named "Location")]
    nested := [
      { name := "Location"
        fields := [
          many "path" 1 int32, many "span" 2 int32, one "leading_comments" 3 text,
          one "trailing_comments" 4 text, many "leading_detached_comments" 6 text] }]
    extensionRanges := [⟨⟨536000000, 536000000⟩, []⟩] }

/-- The message `GeneratedCodeInfo`. -/
def generatedCodeInfo : Message :=
  { name := "GeneratedCodeInfo"
    fields := [many "annotation" 1 (named "Annotation")]
    nested := [
      { name := "Annotation"
        fields := [
          many "path" 1 int32, one "source_file" 2 text, one "begin" 3 int32,
          one "end" 4 int32, one "semantic" 5 (named "Semantic")]
        enumerations := [
          choices "Semantic" [("NONE", 0), ("SET", 1), ("ALIAS", 2)]] }] }

/-- The file that describes schema files. -/
def descriptor : File where
  dialect := .proto2
  package := some ["google", "protobuf"]
  messages := [
    fileDescriptorSet, fileDescriptorProto, descriptorProto, extensionRangeOptions,
    fieldDescriptorProto, oneofDescriptorProto, enumDescriptorProto,
    enumValueDescriptorProto, serviceDescriptorProto, methodDescriptorProto, fileOptions,
    messageOptions, fieldOptions, oneofOptions, enumOptions, enumValueOptions,
    serviceOptions, methodOptions, uninterpretedOption, featureSet, featureSetDefaults,
    sourceCodeInfo, generatedCodeInfo]
  enumerations := [edition, symbolVisibility]

end ServiceStubs.Schema.WellKnown
