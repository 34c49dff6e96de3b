import ServiceStubs.Schema.Token
import ServiceStubs.Schema.Tree

/-!
# The grammar of schema files

A reader takes tokens from the front of a list and gives a tree, or fails. Keywords are ordinary
names: a word is a keyword only where the grammar looks for it. Bodies of messages may nest, and
the number of tokens bounds how deep.
-/

namespace ServiceStubs.Schema

/-- Reads something from the front of a token list. -/
abbrev Reader (α : Type) := StateT (List Token) Option α

/-- The message with one more field, and with the message that the field defines if it does. -/
def Message.addField (message : Message) (field : Field) (defined : Option Message) : Message :=
  { message with
    fields := message.fields ++ [field]
    nested := message.nested ++ defined.toList }

namespace Reader

/-- The next token, which stays. -/
def peek : Reader (Option Token) := do
  return (← get).head?

/-- The next token, which is taken. -/
def next : Reader Token := do
  match ← get with
  | [] => failure
  | token :: rest => set rest; return token

/-- Takes the given token if it is the next one, and says whether it was. -/
def tryToken (token : Token) : Reader Bool := do
  if (← peek) = some token then
    discard next
    return true
  else return false

/-- Takes the given token, which has to be the next one. -/
def token (expected : Token) : Reader Unit := do
  unless (← next) = expected do failure

/-- Takes a punctuation character. -/
def symbol (character : Char) : Reader Unit := token (.symbol character)

/-- Takes a punctuation character if it is next. -/
def trySymbol (character : Char) : Reader Bool := tryToken (.symbol character)

/-- Takes a word. -/
def word (name : String) : Reader Unit := token (.identifier name)

/-- Takes a word if it is next. -/
def tryWord (name : String) : Reader Bool := tryToken (.identifier name)

/-- Whether a word is next. -/
def atWord (name : String) : Reader Bool := do
  return (← peek) = some (.identifier name)

/-- Takes any name. -/
def identifier : Reader String := do
  match ← next with
  | .identifier name => return name
  | _ => failure

/-- Takes an integer up to a limit. -/
def integer (limit : Nat) : Reader Nat := do
  match ← next with
  | .integer value _ => if value ≤ limit then return value else failure
  | _ => failure

/-- The largest number of 31 bits. -/
def largest31 : Nat := 2147483647

/-- The largest number of 63 bits. -/
def largest63 : Nat := 9223372036854775807

/-- The largest number of 64 bits. -/
def largest64 : Nat := 18446744073709551615

/-- Takes an integer with an optional sign, in two's complement of 32 bits. -/
def signedInteger : Reader Int := do
  if ← trySymbol '-' then return -(Int.ofNat (← integer (largest31 + 1)))
  else return Int.ofNat (← integer largest31)

/-- Takes the string literals that follow one another, as one text. -/
def moreText (depth : Nat) (content : List Char) : Reader (List Char) := do
  match depth, ← peek with
  | depth + 1, some (.text more) =>
    discard next
    moreText depth (content ++ more)
  | _, _ => return content

/-- Takes a text: one or more string literals. -/
def text : Reader (List Char) := do
  match ← next with
  | .text content => moreText (← get).length content
  | _ => failure

/-- Reads items until a closing brace, which is taken. `depth` bounds their number. -/
def untilBrace (depth : Nat) (item : α → Reader α) (state : α) : Reader α := do
  match depth with
  | 0 => failure
  | depth + 1 =>
    if ← trySymbol '}' then return state
    else untilBrace depth item (← item state)

/-- Reads items with a comma between neighbours. `depth` bounds their number. -/
def separated (depth : Nat) (item : Reader α) : Reader (List α) := do
  match depth with
  | 0 => failure
  | depth + 1 =>
    let first ← item
    if ← trySymbol ',' then return first :: (← separated depth item) else return [first]

/-- A bound on how many items the rest of the input can hold. -/
def bound : Reader Nat := do
  return (← get).length + 1

/-- Names with dots between them. -/
def dotted (depth : Nat) : Reader (List String) := do
  match depth with
  | 0 => failure
  | depth + 1 =>
    let first ← identifier
    if ← trySymbol '.' then return first :: (← dotted depth) else return [first]

/-- Words that name a type of their own and therefore no message. -/
def isTypeWord (name : String) : Bool :=
  (Scalar.ofWord? name).isSome || name == "group"

/-- A type defined by a schema, by its name. -/
def typeName : Reader TypeName := do
  match ← peek with
  | some (.identifier name) => if isTypeWord name then failure
  | _ => pure ()
  let isComplete ← trySymbol '.'
  return ⟨isComplete, ← dotted (← bound)⟩

/-- The type of a field; `none` is a group. -/
def fieldType (dialect : Dialect) : Reader (Option FieldType) := do
  match ← peek with
  | some (.identifier name) =>
    match Scalar.ofWord? name with
    | some scalar => discard next; return some (.scalar scalar)
    | none =>
      if name = "group" then
        if dialect.isEdition then failure
        discard next
        return none
      else return some (.named (← typeName))
  | _ => return some (.named (← typeName))

/-! ## Options -/

/-- A part of an option's name. -/
def optionPart : Reader OptionPart := do
  if ← trySymbol '(' then
    let isComplete ← trySymbol '.'
    let parts ← dotted (← bound)
    symbol ')'
    return .extension ⟨isComplete, parts⟩
  else return .plain (← identifier)

/-- The name of an option. -/
def optionName (depth : Nat) : Reader (List OptionPart) := do
  match depth with
  | 0 => failure
  | depth + 1 =>
    let first ← optionPart
    if ← trySymbol '.' then return first :: (← optionName depth) else return [first]

/-- The tokens of a block in braces, whose opening brace has been taken, without its closing one.
`unclosed` counts the inner braces that are not closed yet. -/
def block (depth unclosed : Nat) : Reader (List Token) := do
  match depth with
  | 0 => failure
  | depth + 1 =>
    match unclosed, ← next with
    | 0, .symbol '}' => return []
    | unclosed + 1, .symbol '}' => return .symbol '}' :: (← block depth unclosed)
    | unclosed, .symbol '{' => return .symbol '{' :: (← block depth (unclosed + 1))
    | unclosed, token => return token :: (← block depth unclosed)

/-- The value of an option. -/
def optionValue : Reader OptionValue := do
  let isNegative ← trySymbol '-'
  match ← peek with
  | some (.identifier name) =>
    if isNegative && name != "inf" && name != "nan" then failure
    discard next
    return if isNegative then .real else .word name
  | some (.integer _ _) =>
    let value ← integer (if isNegative then largest63 + 1 else largest64)
    return .integer (if isNegative then -Int.ofNat value else Int.ofNat value)
  | some .float => discard next; return .real
  | some (.text _) =>
    if isNegative then failure
    return .text (← text)
  | some (.symbol '{') =>
    if isNegative then failure
    discard next
    return .block (← block (← bound) 0)
  | _ => failure

/-- An option and its value. -/
def setting : Reader Setting := do
  let name ← optionName (← bound)
  symbol '='
  return ⟨name, ← optionValue⟩

/-- An option statement. -/
def optionStatement : Reader Setting := do
  word "option"
  let result ← setting
  symbol ';'
  return result

/-- Options in square brackets, if there are any. -/
def bracketed : Reader (List Setting) := do
  if ← trySymbol '[' then
    let settings ← separated (← bound) setting
    symbol ']'
    return settings
  else return []

/-! ## Fields -/

/-- The default of a field of a scalar type, which has to be of that type. -/
def scalarDefault : Scalar → Reader Unit
  | .int32 | .sint32 | .sfixed32 => discard signedInteger
  | .int64 | .sint64 | .sfixed64 => do
    if ← trySymbol '-' then discard (integer (largest63 + 1)) else discard (integer largest63)
  | .uint32 | .fixed32 => discard (integer 4294967295)
  | .uint64 | .fixed64 => discard (integer largest64)
  | .float | .double => do
    discard (trySymbol '-')
    match ← next with
    | .float => return ()
    | .integer value isDecimal => unless value ≤ largest64 || isDecimal do failure
    | .identifier name => unless name = "inf" ∨ name = "nan" do failure
    | _ => failure
  | .bool => do
    match ← next with
    | .identifier name => unless name = "true" ∨ name = "false" do failure
    | _ => failure
  | .text | .bytes => discard text

/-- The default of a field. -/
def fieldDefault (type : Option FieldType) : Reader Default := do
  match type with
  | some (.scalar scalar) => scalarDefault scalar; return .scalar
  | some _ =>
    match ← next with
    | .identifier name => return .word name
    | _ => return .other
  | none => failure

/-- One item in the brackets after a field. -/
def fieldItem (type : Option FieldType) (field : Field) : Reader Field := do
  if ← tryWord "default" then
    symbol '='
    if field.default.isSome then failure
    return { field with default := some (← fieldDefault type) }
  else if ← tryWord "json_name" then
    symbol '='
    if field.jsonName.isSome then failure
    return { field with jsonName := some (← text) }
  else return { field with settings := field.settings ++ [← setting] }

/-- The items in the brackets after a field. `depth` bounds their number. -/
def fieldItems (depth : Nat) (type : Option FieldType) (field : Field) : Reader Field := do
  match depth with
  | 0 => failure
  | depth + 1 =>
    let read ← fieldItem type field
    if ← trySymbol ',' then fieldItems depth type read
    else symbol ']'; return read

/-- A label, if there is one. Editions know only one. -/
def label? (dialect : Dialect) : Reader (Option Label) := do
  if ← tryWord "repeated" then return some .repeated
  else if ← tryWord "optional" then if dialect.isEdition then failure else return some .optional
  else if ← tryWord "required" then if dialect.isEdition then failure else return some .required
  else return none

/-- The words of a field name in upper camel case, as the entries of a map are named. -/
def entryName (name : String) : String :=
  let rec capitalize (upperNext : Bool) : List Char → List Char
    | [] => []
    | character :: rest =>
      if character = '_' then capitalize true rest
      else (if upperNext then character.toUpper else character) :: capitalize false rest
  String.ofList (capitalize true name.toList) ++ "Entry"

/-- The message that stands for the entries of a map field. -/
def mapEntry (name : String) (key value : FieldType) : Message where
  name := entryName name
  isMapEntry := true
  fields := [
    { name := "key", number := 1, label := .optional, type := key },
    { name := "value", number := 2, label := .optional, type := value }]

/-- The place where a field stands, which decides what it may be. -/
inductive Place where
  | message
  | oneof (name : String)
  | extension (extendee : TypeName)

/-- The name, the number and the brackets of a field of a given type. -/
def fieldRest (place : Place) (label : Label) (type : Option FieldType) : Reader Field := do
  let name ← identifier
  symbol '='
  let number ← integer largest31
  let field : Field := {
    name, number, label
    type := type.getD (.group ⟨false, [name]⟩)
    extendee := match place with
      | .extension extendee => some extendee
      | _ => none
    oneof := match place with
      | .oneof name => some name
      | _ => none }
  if ← trySymbol '[' then fieldItems (← bound) type field else return field

/-- A field after its label, with the message that it defines if it does: a map defines its
entries, and a group its body, which `body` reads. -/
def fieldAfterLabel (dialect : Dialect) (body : Message → Reader Message) (place : Place)
    (label : Option Label) : Reader (Field × Option Message) := do
  let isMapWord ← tryWord "map"
  if isMapWord && (← peek) = some (.symbol '<') then
    match place, label with
    | .message, none =>
      symbol '<'
      let some key ← fieldType dialect | failure
      symbol ','
      let some value ← fieldType dialect | failure
      symbol '>'
      let field ← fieldRest place .repeated (some (.named ⟨false, []⟩))
      symbol ';'
      let entry := mapEntry field.name key value
      return ({ field with type := .named ⟨false, [entry.name]⟩ }, some entry)
    | _, _ => failure
  else
    let implied : Option Label := match place with
      | .oneof _ => some .optional
      | _ => if dialect = .proto2 then none else some .optional
    let some label := label <|> implied | failure
    let type ← if isMapWord then pure (some (.named ⟨false, ["map"]⟩)) else fieldType dialect
    let field ← fieldRest place label type
    match type with
    | some _ => symbol ';'; return (field, none)
    | none =>
      unless (field.name.toList.head?.any fun first => 'A' ≤ first && first ≤ 'Z') do failure
      symbol '{'
      let group ← body { name := field.name }
      return ({ field with name := field.name.toLower }, some group)

/-- A field with its label. -/
def field (dialect : Dialect) (body : Message → Reader Message) (place : Place) :
    Reader (Field × Option Label × Option Message) := do
  let label ← label? dialect
  let (field, message) ← fieldAfterLabel dialect body place label
  return (field, label, message)

/-! ## Ranges and reserved names -/

/-- A range of field numbers as it is written: its first number, and its last one unless that is
left to be the largest there is. -/
structure RangeText where
  first : Nat
  last : Option Nat

/-- Takes a range of field numbers. The number after its last one has 31 bits too. -/
def fieldRange : Reader RangeText := do
  let first ← integer largest31
  if ← tryWord "to" then
    if ← tryWord "max" then return ⟨first, none⟩
    else return ⟨first, ← integer (largest31 - 1)⟩
  else if first < largest31 then return ⟨first, first⟩
  else failure

/-- The largest number of an extension: one of 29 bits, or in a message that is a set of messages
one of 31 bits. -/
def largestExtension (settings : List Setting) : Nat :=
  if settings.contains ⟨[.plain "message_set_wire_format"], .word "true"⟩ then largest31 - 1
  else 536870911

/-- The range that is meant in a message with the given settings. -/
def RangeText.range (settings : List Setting) (range : RangeText) : NumberRange :=
  ⟨range.first, range.last.getD (largestExtension settings)⟩

/-- A range of enumeration numbers. -/
def valueRange : Reader NumberRange := do
  let first ← signedInteger
  if ← tryWord "to" then
    if ← tryWord "max" then return ⟨first, largest31⟩
    else return ⟨first, ← signedInteger⟩
  else return ⟨first, first⟩

/-- What a `reserved` statement reserves, after its keyword. Names are texts, and in editions
words. -/
def reserved {α : Type} (dialect : Dialect) (range : Reader α) :
    Reader (List α × List String) := do
  let result ← match ← peek with
    | some (.text _) =>
      if dialect.isEdition then failure
      let names ← separated (← bound) text
      pure ([], names.map String.ofList)
    | some (.identifier _) =>
      if !dialect.isEdition then failure
      pure ([], ← separated (← bound) identifier)
    | _ => pure (← separated (← bound) range, [])
  symbol ';'
  return result

/-! ## Enumerations -/

/-- A statement in an enumeration. -/
def enumStatement (dialect : Dialect) (enumeration : Enumeration) : Reader Enumeration := do
  if ← trySymbol ';' then return enumeration
  else if ← atWord "option" then
    return { enumeration with settings := enumeration.settings ++ [← optionStatement] }
  else if ← tryWord "reserved" then
    let (ranges, names) ← reserved dialect valueRange
    return { enumeration with
      reservedRanges := enumeration.reservedRanges ++ ranges
      reservedNames := enumeration.reservedNames ++ names }
  else
    let name ← identifier
    symbol '='
    let number ← signedInteger
    let settings ← bracketed
    symbol ';'
    return { enumeration with values := enumeration.values ++ [⟨name, number, settings⟩] }

/-- Whether an enumeration has two values of one number. -/
def sharesNumbers (enumeration : Enumeration) : Bool :=
  !(enumeration.values.map EnumValue.number).Nodup

/-- Whether an enumeration allows two values of one number. A setting that has no effect is
refused. -/
def aliasIsUseful (enumeration : Enumeration) : Bool :=
  match enumeration.settings.find? fun setting => setting.name == [.plain "allow_alias"] with
  | none => true
  | some setting => setting.value == .word "true" && sharesNumbers enumeration

/-- An enumeration, after its keyword. -/
def enumeration (dialect : Dialect) (visibility : Option Visibility) : Reader Enumeration := do
  let name ← identifier
  symbol '{'
  let result ← untilBrace (← bound) (enumStatement dialect) { name, visibility }
  unless aliasIsUseful result do failure
  return result

/-! ## Messages -/

/-- How many messages may lie in one another. -/
def deepestNesting : Nat := 31

/-- What a definition says of being seen from other files, if it says so. What follows has to be a
message or an enumeration. -/
def visibility? (dialect : Dialect) : Reader (Option Visibility) := do
  if !dialect.hasVisibility then return none
  else if ← tryWord "export" then
    unless (← atWord "message") || (← atWord "enum") do failure
    return some .exported
  else if ← tryWord "local" then
    unless (← atWord "message") || (← atWord "enum") do failure
    return some .local
  else return none

/-- Whether a word that looks like a label is next. -/
def atLabel : Reader Bool := do
  return (← atWord "required") || (← atWord "optional") || (← atWord "repeated")

/-- The members of a choice, after its opening brace: at least one member or option. -/
def oneofItem (dialect : Dialect) (body : Message → Reader Message)
    (state : Message × Oneof) : Reader (Message × Oneof) := do
  let (message, oneof) := state
  if ← atWord "option" then
    return (message, { oneof with settings := oneof.settings ++ [← optionStatement] })
  else
    if ← atLabel then failure
    let (field, defined) ← fieldAfterLabel dialect body (.oneof oneof.name) none
    return (message.addField field defined, { oneof with isEmpty := false })

/-- A choice, after its keyword. Labels are not allowed in it. -/
def oneof (dialect : Dialect) (body : Message → Reader Message) (message : Message) :
    Reader Message := do
  let name ← identifier
  symbol '{'
  let start ← oneofItem dialect body (message, { name, isEmpty := true })
  let (message, oneof) ← untilBrace (← bound) (oneofItem dialect body) start
  return { message with oneofs := message.oneofs ++ [oneof] }

/-- The extensions of one message and the messages they define: at least one extension. -/
def extensionItem (dialect : Dialect) (body : Message → Reader Message) (extendee : TypeName)
    (state : List Field × List Message) : Reader (List Field × List Message) := do
  let (field, _, defined) ← field dialect body (.extension extendee)
  return (state.1 ++ [field], state.2 ++ defined.toList)

/-- An `extend` block, after its keyword. -/
def extend (dialect : Dialect) (body : Message → Reader Message) :
    Reader (List Field × List Message) := do
  let extendee ← typeName
  symbol '{'
  let start ← extensionItem dialect body extendee ([], [])
  untilBrace (← bound) (extensionItem dialect body extendee) start

/-- A name for the choice that holds one optional field: an underscore before the field's name,
and as many letters before that as are needed to be new. -/
def freshOneofName (taken : List String) (name : String) : Nat → String
  | 0 => name
  | depth + 1 => if taken.contains name then freshOneofName taken ("X" ++ name) depth else name

/-- Puts each optional field of the third version into a choice of its own. -/
def wrapOptional (optionals : List String) (message : Message) : Message :=
  optionals.foldl
    (fun message name =>
      let taken := message.fields.map Field.name ++ message.oneofs.map Oneof.name
      let start := if name.toList.head? = some '_' then name else "_" ++ name
      { message with
        oneofs := message.oneofs ++ [{ name := freshOneofName taken start (taken.length + 1) }] })
    message

/-- A message whose body is being read, with the optional fields met so far and the ranges, which
can be told only when all settings are known. -/
structure OpenMessage where
  message : Message
  optionals : List String := []
  extensionRanges : List (RangeText × List Setting) := []
  reservedRanges : List RangeText := []

/-- The message when its body has been read. -/
def OpenMessage.close (state : OpenMessage) : Message :=
  let settings := state.message.settings
  wrapOptional state.optionals
    { state.message with
      extensionRanges := state.extensionRanges.map fun entry =>
        ⟨entry.1.range settings, entry.2⟩
      reservedRanges := state.reservedRanges.map (RangeText.range settings) }

mutual

/-- A statement in a message. `fuel` bounds the nesting and `depth` is how many more messages may
lie in this one. -/
def messageStatement (fuel depth : Nat) (dialect : Dialect) (state : OpenMessage) :
    Reader OpenMessage := do
  match fuel with
  | 0 => failure
  | fuel + 1 =>
    let message := state.message
    let body (inner : Message) : Reader Message :=
      if depth = 0 then failure else messageBody fuel (depth - 1) dialect inner
    let visibility ← visibility? dialect
    if ← trySymbol ';' then return state
    else if ← tryWord "message" then
      let name ← identifier
      symbol '{'
      let inner ← body { name, visibility }
      return { state with message := { message with nested := message.nested ++ [inner] } }
    else if ← tryWord "enum" then
      let inner ← enumeration dialect visibility
      return { state with
        message := { message with enumerations := message.enumerations ++ [inner] } }
    else if ← tryWord "extensions" then
      let ranges ← separated (← bound) fieldRange
      let settings ← bracketed
      symbol ';'
      return { state with
        extensionRanges := state.extensionRanges ++ ranges.map fun range => (range, settings) }
    else if ← tryWord "reserved" then
      let (ranges, names) ← reserved dialect fieldRange
      return { state with
        message := { message with reservedNames := message.reservedNames ++ names }
        reservedRanges := state.reservedRanges ++ ranges }
    else if ← tryWord "extend" then
      let (fields, messages) ← extend dialect body
      return { state with
        message := { message with
          extensions := message.extensions ++ fields
          nested := message.nested ++ messages } }
    else if ← atWord "option" then
      let setting ← optionStatement
      return { state with
        message := { message with settings := message.settings ++ [setting] } }
    else if ← tryWord "oneof" then
      return { state with message := ← oneof dialect body message }
    else
      let (field, label, defined) ← field dialect body .message
      let isWrapped := dialect = .proto3 ∧ label = some .optional
      return { state with
        message := message.addField field defined
        optionals := if isWrapped then state.optionals ++ [field.name] else state.optionals }

/-- The body of a message after its opening brace. -/
def messageBody (fuel depth : Nat) (dialect : Dialect) (message : Message) : Reader Message := do
  match fuel with
  | 0 => failure
  | fuel + 1 =>
    let read ← untilBrace (← bound) (messageStatement fuel depth dialect) { message }
    return read.close

end

/-! ## Services -/

/-- A type in the head of a method, and whether it is streamed. The word `stream` right after the
bracket always marks a stream. -/
def streamableType : Reader (Bool × TypeName) := do
  symbol '('
  let isStream ← tryWord "stream"
  let name ← typeName
  symbol ')'
  return (isStream, name)

/-- A statement in the body of a method. -/
def methodStatement (method : Method) : Reader Method := do
  if ← trySymbol ';' then return method
  else return { method with settings := method.settings ++ [← optionStatement] }

/-- A method, after its keyword. -/
def method : Reader Method := do
  let name ← identifier
  let (clientStreaming, input) ← streamableType
  word "returns"
  let (serverStreaming, output) ← streamableType
  let method : Method := { name, input, output, clientStreaming, serverStreaming }
  if ← trySymbol '{' then untilBrace (← bound) methodStatement method
  else symbol ';'; return method

/-- A statement in a service. -/
def serviceStatement (service : Service) : Reader Service := do
  if ← trySymbol ';' then return service
  else if ← atWord "option" then
    return { service with settings := service.settings ++ [← optionStatement] }
  else
    word "rpc"
    return { service with methods := service.methods ++ [← method] }

/-- A service, after its keyword. -/
def service : Reader Service := do
  let name ← identifier
  symbol '{'
  untilBrace (← bound) serviceStatement { name }

/-! ## Files -/

/-- An import, after its keyword. The last edition has imports for options, which come after all
others, and no longer weak ones. -/
def importStatement (dialect : Dialect) (earlier : List Import) : Reader Import := do
  let kind ←
    if ← tryWord "public" then pure ImportKind.passedOn
    else if ← tryWord "weak" then
      if dialect.hasVisibility then failure else pure ImportKind.ordinary
    else if ← tryWord "option" then
      if dialect.hasVisibility then pure ImportKind.forOptions else failure
    else pure ImportKind.ordinary
  let path ← text
  symbol ';'
  if kind ≠ .forOptions ∧ earlier.any fun item => item.kind = .forOptions then failure
  return ⟨path, kind⟩

/-- A statement at the top of a file. -/
def fileStatement (file : File) : Reader File := do
  let body := messageBody (← bound) (deepestNesting - 1) file.dialect
  let visibility ← visibility? file.dialect
  if ← trySymbol ';' then return file
  else if ← tryWord "message" then
    let name ← identifier
    symbol '{'
    return { file with messages := file.messages ++ [← body { name, visibility }] }
  else if ← tryWord "enum" then
    let enumeration ← enumeration file.dialect visibility
    return { file with enumerations := file.enumerations ++ [enumeration] }
  else if ← tryWord "service" then
    return { file with services := file.services ++ [← service] }
  else if ← tryWord "extend" then
    let (fields, messages) ← extend file.dialect body
    return { file with
      extensions := file.extensions ++ fields
      messages := file.messages ++ messages }
  else if ← tryWord "import" then
    let item ← importStatement file.dialect file.imports
    return { file with imports := file.imports ++ [item] }
  else if ← tryWord "package" then
    if file.package.isSome then failure
    let name ← dotted (← bound)
    symbol ';'
    return { file with package := some name }
  else return { file with settings := file.settings ++ [← optionStatement] }

/-- The statement that names the dialect, which may only be the first one. -/
def dialect : Reader Dialect := do
  if ← tryWord "syntax" then
    symbol '='
    let name ← text
    symbol ';'
    if name = "proto2".toList then return .proto2
    else if name = "proto3".toList then return .proto3
    else failure
  else if ← tryWord "edition" then
    symbol '='
    let name ← text
    symbol ';'
    if name = "2023".toList then return .edition2023
    else if name = "2024".toList then return .edition2024
    else failure
  else return .proto2

/-- Statements up to the end of the input. `depth` bounds their number. -/
def fileStatements (depth : Nat) (file : File) : Reader File := do
  match depth, ← peek with
  | _, none => return file
  | 0, _ => failure
  | depth + 1, some _ => fileStatements depth (← fileStatement file)

/-- A whole file. -/
def file : Reader File := do
  let dialect ← dialect
  fileStatements (← bound) { dialect }

end Reader

/-- The tree of a schema file, if its bytes follow the grammar. -/
def File.ofBytes? (bytes : List UInt8) : Option File := do
  let tokens ← Token.ofBytes bytes
  let (file, _) ← Reader.file.run tokens
  return file

end ServiceStubs.Schema
