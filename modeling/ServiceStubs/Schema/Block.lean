import ServiceStubs.Schema.Catalog
import ServiceStubs.Schema.Grammar
import ServiceStubs.Schema.Record

/-!
# Blocks of option values

The value of an option that is a message stands in a block: fields with their values, read against
the message's definition. A field that is not repeated is set once, of a choice one member is set,
and required fields are set.
-/

namespace ServiceStubs.Schema

/-- What values are read against: definitions, the extension that a name stands for in a scope, and
which fields and enumeration values may be used. -/
structure ValueRules where
  catalog : Catalog
  extension? : FullName → TypeName → Option KnownExtension
  allowsField : KnownField → Bool
  allowsValue : EnumValue → Bool

/-- The key of an extension in a record. -/
def KnownExtension.key (extension : KnownExtension) : String :=
  "(" ++ String.intercalate "." extension.name ++ ")"

/-- The name of a field in a block: a group goes by the name of its message. -/
def KnownField.blockName (field : KnownField) : String :=
  match field.isGroup, field.type with
  | true, .message name => name.getLastD field.name
  | _, _ => field.name

namespace ValueRules

/-- A value of an enumeration by its name. -/
def choiceOfName? (rules : ValueRules) (enumeration : FullName) (name : String) :
    Option Datum := do
  let known ← rules.catalog.enumeration? enumeration
  let value ← known.values.find? fun value => value.name == name
  if rules.allowsValue value then some (.choice value.name value.number) else none

/-- A value of an enumeration by its number. -/
def choiceOfNumber? (rules : ValueRules) (enumeration : FullName) (number : Int) :
    Option Datum := do
  let known ← rules.catalog.enumeration? enumeration
  match known.values.find? fun value => value.number == number with
  | some value => if rules.allowsValue value then some (.choice value.name number) else none
  | none => if known.isOpen then some (.choice "" number) else none

/-- Whether setting a field is an error next to those that are set: it is set already, or another
member of its choice is. -/
def clashes (message : KnownMessage) (record : Record) (key : String) (field : KnownField) :
    Bool :=
  field.label != .repeated &&
    (record.has key ||
      field.oneof.any fun oneof =>
        message.fields.any fun other => other.oneof == some oneof && record.has other.name)

/-- Whether all required fields are set. -/
def isComplete (message : KnownMessage) (record : Record) : Bool :=
  message.fields.all fun field => field.label != .required || record.has field.name

end ValueRules

namespace Reader

/-- Reads a value that `-` may stand before. -/
def signed {α : Type} (value : Bool → Reader α) : Reader α := do
  value (← trySymbol '-')

/-- Takes a whole number between two limits, the lower one given without its sign. -/
def wholeNumber (lowest highest : Nat) : Reader Datum :=
  signed fun isNegative => do
    if isNegative then return .integer (-Int.ofNat (← integer lowest))
    else return .integer (← integer highest)

/-- Takes a whole number without a sign. -/
def unsignedNumber (highest : Nat) : Reader Datum := do
  return .integer (← integer highest)

/-- Takes a number, which is written in decimal digits if it is whole. -/
def realNumber : Reader Datum :=
  signed fun _ => do
    match ← next with
    | .float => return .real
    | .integer _ isDecimal => if isDecimal then return .real else failure
    | .identifier name =>
      if ["inf", "infinity", "nan"].contains name.toLower then return .real else failure
    | _ => failure

/-- Takes a truth value, in one of its spellings. -/
def truthValue : Reader Datum := do
  match ← next with
  | .integer 0 _ => return .truth false
  | .integer 1 _ => return .truth true
  | .identifier name =>
    if ["true", "True", "t"].contains name then return .truth true
    else if ["false", "False", "f"].contains name then return .truth false
    else failure
  | _ => failure

/-- Takes a value of a scalar type. -/
def scalarValue : Scalar → Reader Datum
  | .int32 | .sint32 | .sfixed32 => wholeNumber (largest31 + 1) largest31
  | .int64 | .sint64 | .sfixed64 => wholeNumber (largest63 + 1) largest63
  | .uint32 | .fixed32 => unsignedNumber 4294967295
  | .uint64 | .fixed64 => unsignedNumber largest64
  | .float | .double => realNumber
  | .bool => truthValue
  | .text | .bytes => do return .text (← text)

/-- Takes a value of an enumeration, by its name or its number. -/
def choiceValue (rules : ValueRules) (enumeration : FullName) : Reader Datum := do
  match ← peek with
  | some (.identifier name) =>
    discard next
    match rules.choiceOfName? enumeration name with
    | some datum => return datum
    | none => failure
  | _ =>
    match ← wholeNumber (largest31 + 1) largest31 with
    | .integer number =>
      match rules.choiceOfNumber? enumeration number with
      | some datum => return datum
      | none => failure
    | _ => failure

/-- Takes the name of a field or, in brackets, of an extension, and finds the field with its
key. -/
def blockField (rules : ValueRules) (message : KnownMessage) : Reader (String × KnownField) := do
  if ← trySymbol '[' then
    let parts ← dotted (← bound)
    symbol ']'
    match rules.extension? message.name ⟨false, parts⟩ with
    | some extension =>
      if extension.extendee = message.name then return (extension.key, extension.field)
      else failure
    | none => failure
  else
    let name ← identifier
    match message.fields.find? fun field => field.blockName == name with
    | some field => return (field.name, field)
    | none => failure

/-- Values in square brackets with commas between them, the opening bracket taken. `depth` bounds
their number. -/
def valuesUntilBracket (depth : Nat) (value : Reader Datum) : Reader (List Datum) := do
  match depth with
  | 0 => failure
  | depth + 1 =>
    let first ← value
    if ← trySymbol ']' then return [first]
    else
      symbol ','
      return first :: (← valuesUntilBracket depth value)

mutual

/-- The fields of a message up to a closing bracket or the end of the block, on top of those read
before. A number sign ends the block early. `fuel` bounds the number of steps. -/
def blockFields (fuel : Nat) (rules : ValueRules) (message : KnownMessage) (record : Record) :
    Reader Record := do
  match fuel with
  | 0 => failure
  | fuel + 1 =>
    match ← peek with
    | none => return record
    | some (.symbol '}') => return record
    | some (.symbol '>') => return record
    | some (.symbol '#') => set ([] : List Token); return record
    | some _ =>
      let (key, field) ← blockField rules message
      if !rules.allowsField field || ValueRules.clashes message record key field then failure
      let hasColon ← trySymbol ':'
      let data ← blockData fuel rules field hasColon
      unless ← trySymbol ';' do discard (trySymbol ',')
      blockFields fuel rules message (record ++ data.map fun datum => (key, datum))

/-- The values of a field after its name. Only a message may come without a colon. -/
def blockData (fuel : Nat) (rules : ValueRules) (field : KnownField) (hasColon : Bool) :
    Reader (List Datum) := do
  match fuel with
  | 0 => failure
  | fuel + 1 =>
    let value : Reader Datum :=
      match field.type with
      | .scalar type => scalarValue type
      | .enumeration name => choiceValue rules name
      | .message name => blockMessage fuel rules name
    let isMessage := match field.type with
      | .message _ => true
      | _ => false
    if !hasColon && !isMessage then failure
    if field.label = .repeated then
      if ← trySymbol '[' then
        if ← trySymbol ']' then return []
        else return ← valuesUntilBracket (← bound) value
    return [← value]

/-- A message in braces or in angle brackets. -/
def blockMessage (fuel : Nat) (rules : ValueRules) (name : FullName) : Reader Datum := do
  match fuel with
  | 0 => failure
  | fuel + 1 =>
    let closing ← if ← trySymbol '<' then pure '>' else do symbol '{'; pure '}'
    let some message := rules.catalog.message? name | failure
    let record ← blockFields fuel rules message []
    symbol closing
    if ValueRules.isComplete message record then return .record record else failure

end

end Reader

/-- The record that the tokens of a block stand for, read as a message of the given name. -/
def ValueRules.recordOf? (rules : ValueRules) (name : FullName) (tokens : List Token) :
    Option Record := do
  let message ← rules.catalog.message? name
  let (record, rest) ← (Reader.blockFields (tokens.length * 3 + 3) rules message []).run tokens
  if rest.isEmpty && ValueRules.isComplete message record then some record else none

end ServiceStubs.Schema
