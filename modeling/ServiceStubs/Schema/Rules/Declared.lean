import ServiceStubs.Schema.Rules.Field
import ServiceStubs.Text.Split

/-!
# Declared extensions

A message can declare the extensions of a range beforehand: their numbers, names and types. Every
extension in such a range has to be a declared one.
-/

namespace ServiceStubs.Schema

/-- The word of a scalar type. -/
def Scalar.word : Scalar → String
  | .double => "double"
  | .float => "float"
  | .int32 => "int32"
  | .int64 => "int64"
  | .uint32 => "uint32"
  | .uint64 => "uint64"
  | .sint32 => "sint32"
  | .sint64 => "sint64"
  | .fixed32 => "fixed32"
  | .fixed64 => "fixed64"
  | .sfixed32 => "sfixed32"
  | .sfixed64 => "sfixed64"
  | .bool => "bool"
  | .text => "string"
  | .bytes => "bytes"

/-- A complete name with its leading dot. -/
def dottedName (name : FullName) : String :=
  "." ++ String.intercalate "." name

/-- Whether a text is a name with dots. -/
def isDottedName (text : List Char) : Bool :=
  (Text.splitString '.' (String.ofList text)).all fun part =>
    match part.toList with
    | [] => false
    | first :: rest => Token.isLetter first && rest.all Token.isNameCharacter

/-- Whether a text is a complete name with its leading dot. -/
def isCompleteName : List Char → Bool
  | '.' :: name => isDottedName name
  | _ => false

/-- Whether a text is a word for a type that no schema defines. -/
def isTypeWord (text : List Char) : Bool :=
  let word := String.ofList text
  (Scalar.ofWord? word).isSome || word == "enum"

/-! ## Declarations -/

/-- Whether the names in a declaration are there and complete. A reserved one may have none. -/
def declarationIsNamed (declaration : Record) : Bool :=
  match declaration.text? "full_name", declaration.text? "type" with
  | some name, some type => isCompleteName name && (isTypeWord type || isCompleteName type)
  | none, none => declaration.isTrue "reserved"
  | _, _ => false

/-- Whether the declarations of a range lie in it and can be told apart from the names and numbers
declared before. -/
def declarationsFit (range : NumberRange) (options : Record) : Bool :=
  let declarations := options.inners "declaration"
  declarations.isEmpty ||
    (options.choice? "verification" != some "UNVERIFIED" &&
      declarations.all fun declaration =>
        range.holds ((declaration.integer? "number").getD 0) && declarationIsNamed declaration)

/-- The declarations among options of all ranges of a message. -/
def allDeclarations (options : List Record) : List Record :=
  options.flatMap fun record => record.inners "declaration"

/-- Whether no number and no name is declared twice. -/
def declarationsDiffer (options : List Record) : Bool :=
  let declarations := allDeclarations options
  (declarations.map fun declaration => (declaration.integer? "number").getD 0).Nodup &&
    (declarations.filterMap fun declaration => declaration.text? "full_name").Nodup

/-! ## Extensions -/

/-- The options of a range that are about its declarations. -/
def rangeDeclarations (range : ExtensionRange) : Record :=
  let settings := range.settings.filter fun setting =>
    setting.name == [.plain "declaration"] || setting.name == [.plain "verification"]
  ((OptionReader.standard .proto2).record? .extensionRange [] settings).getD []

/-- The name of a type as it is declared. -/
def ResolvedType.declaredName : ResolvedType → String
  | .scalar type => type.word
  | .message entry _ => dottedName entry.name
  | .enumeration entry _ => dottedName entry.name

/-- The type that a declaration asks for, with its leading dot if it is a defined one. -/
def declaredType (type : List Char) : String :=
  if isTypeWord type || type.head? == some '.' then String.ofList type
  else "." ++ String.ofList type

/-- Whether an extension is the one that a declaration of its number declares. -/
def FieldView.isDeclaredBy (view : FieldView) (declaration : Record) : Bool :=
  !declaration.isTrue "reserved" &&
    (declaration.text? "type").all (fun type =>
      type.isEmpty || declaredType type == view.type.declaredName) &&
    (declaration.text? "full_name").all (fun name =>
      name.isEmpty || String.ofList name == dottedName (view.scope ++ [view.field.name])) &&
    declaration.isTrue "repeated" == view.isRepeated

/-- Whether a range of the extended message lets an extension be. -/
def FieldView.isDeclaredIn (view : FieldView) (range : ExtensionRange) : Bool :=
  let options := rangeDeclarations range
  let declarations := options.inners "declaration"
  match declarations.find? fun declaration =>
      declaration.integer? "number" == some (Int.ofNat view.field.number) with
  | some declaration => view.isDeclaredBy declaration
  | none => declarations.isEmpty && options.choice? "verification" != some "DECLARATION"

end ServiceStubs.Schema
