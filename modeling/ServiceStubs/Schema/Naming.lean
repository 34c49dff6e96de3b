import ServiceStubs.Schema.Tree

/-!
# Names in other notations

How names of fields and values read in the text format and without the name of their enumeration,
and the styles that names can be held to.
-/

namespace ServiceStubs.Schema

/-! ## Derived names -/

/-- The characters of a name without underscores, those after one in upper case. -/
def dropUnderscores (upperNext : Bool) : List Char → List Char
  | [] => []
  | character :: rest =>
    if character = '_' then dropUnderscores true rest
    else (if upperNext then character.toUpper else character) :: dropUnderscores false rest

/-- The name of a field in the text format, unless one is given. -/
def defaultJsonName (name : String) : List Char :=
  dropUnderscores false name.toList

/-- The words of a value's name, each with only its first letter in upper case. -/
def pascalWords (upperNext : Bool) : List Char → List Char
  | [] => []
  | character :: rest =>
    if character = '_' then pascalWords true rest
    else
      (if upperNext then character.toUpper else character.toLower) :: pascalWords false rest

/-- The rest of a value's name after the name of its enumeration, in any spelling with
underscores. -/
def afterEnumName : List Char → List Char → Option (List Char)
  | [], name => some (name.dropWhile (· == '_'))
  | _ :: _, [] => none
  | expected :: start, character :: name =>
    if character = '_' then afterEnumName (expected :: start) name
    else if character.toLower = expected then afterEnumName start name
    else none
termination_by start name => (name.length, start.length)

/-- The name of a value without the name of its enumeration, in upper camel case. -/
def shortValueName (enumName valueName : String) : List Char :=
  let start := (enumName.toList.filter (· != '_')).map Char.toLower
  let short :=
    match afterEnumName start valueName.toList with
    | some [] => valueName.toList
    | some rest => rest
    | none => valueName.toList
  pascalWords true short

/-! ## Styles -/

/-- Whether a character is a lower-case letter of the alphabet. -/
def isLower (character : Char) : Bool :=
  'a' ≤ character && character ≤ 'z'

/-- Whether a character is an upper-case letter of the alphabet. -/
def isUpper (character : Char) : Bool :=
  'A' ≤ character && character ≤ 'Z'

/-- Whether each underscore of a name has a letter after it. -/
def hasLetterAfterUnderscore : List Char → Bool
  | [] => true
  | [last] => last != '_'
  | '_' :: next :: rest => (isLower next || isUpper next) && hasLetterAfterUnderscore (next :: rest)
  | _ :: next :: rest => hasLetterAfterUnderscore (next :: rest)

/-- Whether a name is made of words that start with capital letters. -/
def isTitleCase (name : String) : Bool :=
  name.toList.head?.any isUpper &&
    name.toList.all fun character => isLower character || isUpper character || character.isDigit

/-- Whether a name is made of words in letters of one case with underscores between them. -/
def isSnakeCase (isLetter : Char → Bool) (name : String) : Bool :=
  name.toList.head?.any isLetter && hasLetterAfterUnderscore name.toList &&
    name.toList.all fun character =>
      isLetter character || character.isDigit || character == '_'

/-- Whether a name is made of words in lower case. -/
def isLowerSnakeCase : String → Bool := isSnakeCase isLower

/-- Whether a name is made of words in upper case. -/
def isUpperSnakeCase : String → Bool := isSnakeCase isUpper

end ServiceStubs.Schema
