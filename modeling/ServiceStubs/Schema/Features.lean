import ServiceStubs.Schema.Options
import ServiceStubs.Schema.WellKnown.Description

/-!
# Features

What the dialects differ in is a set of features. Each dialect has its own set to start from; in
editions definitions can choose features for themselves and for what lies in them.
-/

namespace ServiceStubs.Schema

/-- Whether a field that is not repeated knows that it has been set. -/
inductive Presence where
  | explicit
  | implicit
  | required
  deriving DecidableEq, Repr

/-- Which definitions without a word of their own are seen from other files. -/
inductive DefaultVisibility where
  | all
  | topLevel
  | nothing
  | strict
  deriving DecidableEq, Repr

/-- The features of a definition, as far as rules look at them. -/
structure Features where
  presence : Presence := .explicit
  hasOpenEnumerations : Bool := true
  hasStrictJsonNames : Bool := true
  delimitsMessages : Bool := false
  enforcesNaming : Bool := false
  defaultVisibility : DefaultVisibility := .all
  deriving DecidableEq, Repr

namespace Features

/-- The features that a dialect starts from. -/
def ofDialect : Dialect → Features
  | .proto2 => { hasOpenEnumerations := false, hasStrictJsonNames := false }
  | .proto3 => { presence := .implicit }
  | .edition2023 => {}
  | .edition2024 => { enforcesNaming := true, defaultVisibility := .topLevel }

/-- The features after some have been chosen. -/
def override (features : Features) (chosen : Record) : Features where
  presence := match chosen.choice? "field_presence" with
    | some "EXPLICIT" => .explicit
    | some "IMPLICIT" => .implicit
    | some "LEGACY_REQUIRED" => .required
    | _ => features.presence
  hasOpenEnumerations := match chosen.choice? "enum_type" with
    | some "OPEN" => true
    | some "CLOSED" => false
    | _ => features.hasOpenEnumerations
  hasStrictJsonNames := match chosen.choice? "json_format" with
    | some "ALLOW" => true
    | some "LEGACY_BEST_EFFORT" => false
    | _ => features.hasStrictJsonNames
  delimitsMessages := match chosen.choice? "message_encoding" with
    | some "DELIMITED" => true
    | some "LENGTH_PREFIXED" => false
    | _ => features.delimitsMessages
  enforcesNaming := match chosen.choice? "enforce_naming_style" with
    | some "STYLE2024" => true
    | some "STYLE_LEGACY" => false
    | _ => features.enforcesNaming
  defaultVisibility := match chosen.choice? "default_symbol_visibility" with
    | some "EXPORT_ALL" => .all
    | some "EXPORT_TOP_LEVEL" => .topLevel
    | some "LOCAL_ALL" => .nothing
    | some "STRICT" => .strict
    | _ => features.defaultVisibility

/-- Whether features may be chosen like this: only in editions, and none is left unknown. -/
def areChosenWell (dialect : Dialect) (options : Record) : Bool :=
  !options.has "features" ||
    (dialect.isEdition &&
      List.all (options.inner "features") fun entry =>
        match entry.2 with
        | .choice _ number => number != 0
        | _ => true)

end Features

/-- The import name of the file that describes schema files. -/
def descriptionPath : String := "google/protobuf/descriptor.proto"

/-- The definitions that describe schema files, with the options that are always known. -/
def descriptionCatalog : Catalog :=
  Catalog.ofFile WellKnown.descriptor (WellKnown.descriptor.entries descriptionPath) fun _ => false

/-- Reads the options that are always known. -/
def OptionReader.standard (dialect : Dialect) : OptionReader :=
  ⟨dialect, descriptionCatalog, []⟩

namespace OptionReader

/-- The record that settings stand for, if the features among them may be chosen like this. -/
def options? (reader : OptionReader) (target : OptionTarget) (scope : FullName)
    (settings : List Setting) : Option Record := do
  let record ← reader.record? target scope settings
  if Features.areChosenWell reader.dialect record then some record else none

/-- The features of a definition in something with the given ones. Settings that cannot be
understood choose nothing. -/
def features (reader : OptionReader) (target : OptionTarget) (scope : FullName)
    (around : Features) (settings : List Setting) : Features :=
  around.override (((reader.record? target scope settings).getD []).inner "features")

end OptionReader

end ServiceStubs.Schema
