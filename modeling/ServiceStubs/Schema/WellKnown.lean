import ServiceStubs.Schema.WellKnown.Description

/-!
# Well-known schema files

The schema files that every set of files can import.
-/

namespace ServiceStubs.Schema.WellKnown

/-- The file `any.proto`. -/
def any : File where
  dialect := .proto3
  package := some ["google", "protobuf"]
  messages := [
    { name := "Any"
      fields := [one "type_url" 1 text, one "value" 2 bytes] }]

/-- The file `duration.proto`. -/
def duration : File where
  dialect := .proto3
  package := some ["google", "protobuf"]
  messages := [
    { name := "Duration"
      fields := [one "seconds" 1 int64, one "nanos" 2 int32] }]

/-- The file `empty.proto`. -/
def empty : File where
  dialect := .proto3
  package := some ["google", "protobuf"]
  messages := [{ name := "Empty" }]

/-- The file `field_mask.proto`. -/
def fieldMask : File where
  dialect := .proto3
  package := some ["google", "protobuf"]
  messages := [
    { name := "FieldMask"
      fields := [many "paths" 1 text] }]

/-- The file `source_context.proto`. -/
def sourceContext : File where
  dialect := .proto3
  package := some ["google", "protobuf"]
  messages := [
    { name := "SourceContext"
      fields := [one "file_name" 1 text] }]

/-- The file `struct.proto`. -/
def structFile : File where
  dialect := .proto3
  package := some ["google", "protobuf"]
  messages := [
    { name := "Struct"
      fields := [many "fields" 1 (named "FieldsEntry")]
      nested := [Reader.mapEntry "fields" text (named "Value")] },
    { name := "Value"
      fields := [
        member "kind" "null_value" 1 (named "NullValue"),
        member "kind" "number_value" 2 double, member "kind" "string_value" 3 text,
        member "kind" "bool_value" 4 truth, member "kind" "struct_value" 5 (named "Struct"),
        member "kind" "list_value" 6 (named "ListValue")]
      oneofs := [{ name := "kind" }] },
    { name := "ListValue"
      fields := [many "values" 1 (named "Value")] }]
  enumerations := [choices "NullValue" [("NULL_VALUE", 0)]]

/-- The file `timestamp.proto`. -/
def timestamp : File where
  dialect := .proto3
  package := some ["google", "protobuf"]
  messages := [
    { name := "Timestamp"
      fields := [one "seconds" 1 int64, one "nanos" 2 int32] }]

/-- The file `wrappers.proto`. -/
def wrappers : File where
  dialect := .proto3
  package := some ["google", "protobuf"]
  messages := [
    { name := "DoubleValue"
      fields := [one "value" 1 double] },
    { name := "FloatValue"
      fields := [one "value" 1 float] },
    { name := "Int64Value"
      fields := [one "value" 1 int64] },
    { name := "UInt64Value"
      fields := [one "value" 1 uint64] },
    { name := "Int32Value"
      fields := [one "value" 1 int32] },
    { name := "UInt32Value"
      fields := [one "value" 1 uint32] },
    { name := "BoolValue"
      fields := [one "value" 1 truth] },
    { name := "StringValue"
      fields := [one "value" 1 text] },
    { name := "BytesValue"
      fields := [one "value" 1 bytes] }]

/-- The file `type.proto`. -/
def typeFile : File where
  dialect := .proto3
  package := some ["google", "protobuf"]
  imports := [
    imported "google/protobuf/any.proto", imported "google/protobuf/source_context.proto"]
  messages := [
    { name := "Type"
      fields := [
        one "name" 1 text, many "fields" 2 (named "Field"), many "oneofs" 3 text,
        many "options" 4 (named "Option"), one "source_context" 5 (named "SourceContext"),
        one "syntax" 6 (named "Syntax"), one "edition" 7 text] },
    { name := "Field"
      fields := [
        one "kind" 1 (named "Kind"), one "cardinality" 2 (named "Cardinality"),
        one "number" 3 int32, one "name" 4 text, one "type_url" 6 text,
        one "oneof_index" 7 int32, one "packed" 8 truth, many "options" 9 (named "Option"),
        one "json_name" 10 text, one "default_value" 11 text]
      enumerations := [
        choices "Kind" [
          ("TYPE_UNKNOWN", 0), ("TYPE_DOUBLE", 1), ("TYPE_FLOAT", 2), ("TYPE_INT64", 3),
          ("TYPE_UINT64", 4), ("TYPE_INT32", 5), ("TYPE_FIXED64", 6), ("TYPE_FIXED32", 7),
          ("TYPE_BOOL", 8), ("TYPE_STRING", 9), ("TYPE_GROUP", 10), ("TYPE_MESSAGE", 11),
          ("TYPE_BYTES", 12), ("TYPE_UINT32", 13), ("TYPE_ENUM", 14), ("TYPE_SFIXED32", 15),
          ("TYPE_SFIXED64", 16), ("TYPE_SINT32", 17), ("TYPE_SINT64", 18)],
        choices "Cardinality" [
          ("CARDINALITY_UNKNOWN", 0), ("CARDINALITY_OPTIONAL", 1),
          ("CARDINALITY_REQUIRED", 2), ("CARDINALITY_REPEATED", 3)]] },
    { name := "Enum"
      fields := [
        one "name" 1 text, many "enumvalue" 2 (named "EnumValue"),
        many "options" 3 (named "Option"), one "source_context" 4 (named "SourceContext"),
        one "syntax" 5 (named "Syntax"), one "edition" 6 text] },
    { name := "EnumValue"
      fields := [
        one "name" 1 text, one "number" 2 int32, many "options" 3 (named "Option")] },
    { name := "Option"
      fields := [one "name" 1 text, one "value" 2 (named "Any")] }]
  enumerations := [
    choices "Syntax" [
      ("SYNTAX_PROTO2", 0), ("SYNTAX_PROTO3", 1), ("SYNTAX_EDITIONS", 2)]]

/-- The file `api.proto`. -/
def api : File where
  dialect := .proto3
  package := some ["google", "protobuf"]
  imports := [
    imported "google/protobuf/source_context.proto", imported "google/protobuf/type.proto"]
  messages := [
    { name := "Api"
      fields := [
        one "name" 1 text, many "methods" 2 (named "Method"),
        many "options" 3 (named "Option"), one "version" 4 text,
        one "source_context" 5 (named "SourceContext"), many "mixins" 6 (named "Mixin"),
        one "syntax" 7 (named "Syntax"), one "edition" 8 text] },
    { name := "Method"
      fields := [
        one "name" 1 text, one "request_type_url" 2 text, one "request_streaming" 3 truth,
        one "response_type_url" 4 text, one "response_streaming" 5 truth,
        many "options" 6 (named "Option"), one "syntax" 7 (named "Syntax"),
        one "edition" 8 text] },
    { name := "Mixin"
      fields := [one "name" 1 text, one "root" 2 text] }]

/-- The file `compiler/plugin.proto`. -/
def plugin : File where
  dialect := .proto2
  package := some ["google", "protobuf", "compiler"]
  imports := [imported "google/protobuf/descriptor.proto"]
  messages := [
    { name := "Version"
      fields := [
        one "major" 1 int32, one "minor" 2 int32, one "patch" 3 int32, one "suffix" 4 text] },
    { name := "CodeGeneratorRequest"
      fields := [
        many "file_to_generate" 1 text, one "parameter" 2 text,
        many "proto_file" 15 (named "FileDescriptorProto"),
        many "source_file_descriptors" 17 (named "FileDescriptorProto"),
        one "compiler_version" 3 (named "Version")] },
    { name := "CodeGeneratorResponse"
      fields := [
        one "error" 1 text, one "supported_features" 2 uint64,
        one "minimum_edition" 3 int32, one "maximum_edition" 4 int32,
        many "file" 15 (named "File")]
      nested := [
        { name := "File"
          fields := [
            one "name" 1 text, one "insertion_point" 2 text, one "content" 15 text,
            one "generated_code_info" 16 (named "GeneratedCodeInfo")] }]
      enumerations := [
        choices "Feature" [
          ("FEATURE_NONE", 0), ("FEATURE_PROTO3_OPTIONAL", 1),
          ("FEATURE_SUPPORTS_EDITIONS", 2)]] }]

/-- The file `cpp_features.proto`. -/
def cppFeatures : File where
  dialect := .proto2
  package := some ["pb"]
  imports := [imported "google/protobuf/descriptor.proto"]
  messages := [
    { name := "CppFeatures"
      fields := [
        feature "legacy_closed_enum" 1 truth "EDITION_2023" ["FIELD", "FILE"],
        feature "string_type" 2 (named "StringType") "EDITION_2023" ["FIELD", "FILE"],
        feature "enum_name_uses_string_view" 3 truth "EDITION_2024" ["ENUM", "FILE"]]
      enumerations := [
        choices "StringType" [
          ("STRING_TYPE_UNKNOWN", 0), ("VIEW", 1), ("CORD", 2), ("STRING", 3)]] }]
  extensions := [
    extending "google.protobuf.FeatureSet" (one "cpp" 1000 (named "CppFeatures"))]

/-- The file `java_features.proto`. -/
def javaFeatures : File where
  dialect := .proto2
  package := some ["pb"]
  imports := [imported "google/protobuf/descriptor.proto"]
  messages := [
    { name := "JavaFeatures"
      fields := [
        feature "legacy_closed_enum" 1 truth "EDITION_2023" ["FIELD", "FILE"],
        feature "utf8_validation" 2 (named "Utf8Validation") "EDITION_2023"
          ["FIELD", "FILE"],
        feature "large_enum" 3 truth "EDITION_2024" ["ENUM", "FILE"],
        feature "use_old_outer_classname_default" 4 truth "EDITION_2024" ["FILE"],
        feature "nest_in_file_class" 5 (named "NestInFileClassFeature.NestInFileClass")
          "EDITION_2024" ["MESSAGE", "ENUM", "SERVICE", "FILE"]]
      nested := [
        { name := "NestInFileClassFeature"
          enumerations := [
            choices "NestInFileClass" [
              ("NEST_IN_FILE_CLASS_UNKNOWN", 0), ("NO", 1), ("YES", 2), ("LEGACY", 3)]] }]
      enumerations := [
        choices "Utf8Validation" [
          ("UTF8_VALIDATION_UNKNOWN", 0), ("DEFAULT", 1), ("VERIFY", 2)]] }]
  extensions := [
    extending "google.protobuf.FeatureSet" (one "java" 1001 (named "JavaFeatures"))]

/-- The file `go_features.proto`. -/
def goFeatures : File where
  dialect := .proto2
  package := some ["pb"]
  imports := [imported "google/protobuf/descriptor.proto"]
  messages := [
    { name := "GoFeatures"
      fields := [
        feature "legacy_unmarshal_json_enum" 1 truth "EDITION_2023" ["ENUM", "FILE"],
        feature "api_level" 2 (named "APILevel") "EDITION_2023" ["MESSAGE", "FILE"],
        feature "strip_enum_prefix" 3 (named "StripEnumPrefix") "EDITION_2024"
          ["ENUM", "ENUM_ENTRY", "FILE"]]
      enumerations := [
        choices "APILevel" [
          ("API_LEVEL_UNSPECIFIED", 0), ("API_OPEN", 1), ("API_HYBRID", 2),
          ("API_OPAQUE", 3)],
        choices "StripEnumPrefix" [
          ("STRIP_ENUM_PREFIX_UNSPECIFIED", 0), ("STRIP_ENUM_PREFIX_KEEP", 1),
          ("STRIP_ENUM_PREFIX_GENERATE_BOTH", 2), ("STRIP_ENUM_PREFIX_STRIP", 3)]] }]
  extensions := [
    extending "google.protobuf.FeatureSet" (one "go" 1002 (named "GoFeatures"))]

/-- All well-known files by their import names. -/
def files : List (String × File) := [
  ("google/protobuf/any.proto", any), ("google/protobuf/duration.proto", duration),
  ("google/protobuf/empty.proto", empty), ("google/protobuf/field_mask.proto", fieldMask),
  ("google/protobuf/source_context.proto", sourceContext),
  ("google/protobuf/struct.proto", structFile),
  ("google/protobuf/timestamp.proto", timestamp),
  ("google/protobuf/wrappers.proto", wrappers), ("google/protobuf/type.proto", typeFile),
  ("google/protobuf/api.proto", api), ("google/protobuf/compiler/plugin.proto", plugin),
  ("google/protobuf/cpp_features.proto", cppFeatures),
  ("google/protobuf/java_features.proto", javaFeatures),
  ("google/protobuf/go_features.proto", goFeatures),
  ("google/protobuf/descriptor.proto", descriptor)]

end ServiceStubs.Schema.WellKnown
