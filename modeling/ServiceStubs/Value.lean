import ServiceStubs.Double
import ServiceStubs.Text.Quoted
import ServiceStubs.Text.Split

/-!
# Loose values

Settings and raw declarations come from callers that are not held to a type: a name may be a
number, a flag may be a word. `Value` is what they may hand in. The module says how such a value
is shown, how it is written as a literal, and whether it counts as true; it holds no setting and
no declaration.
-/

namespace ServiceStubs

/-- A value whose type is only known at run time. -/
inductive Value where
  | null
  | truth (value : Bool)
  | integer (value : Int)
  /-- The floating point number nearest to `mantissa · 10 ^ (-exponent)`. -/
  | decimal (mantissa : Int) (exponent : Nat)
  | text (value : String)
  | list (items : List Value)
  | record (fields : List (String × Value))
  deriving Inhabited

namespace Value

/-- A decimal number without its sign, as a floating point number. -/
def double (mantissa : Int) (exponent : Nat) : Double :=
  .nearest mantissa.natAbs (Nat.pow 10 exponent)

/-- Empty, zero, false and missing values count as false, all others as true. -/
def isTrue : Value → Bool
  | .null => false
  | .truth value => value
  | .integer value => value != 0
  | .decimal mantissa exponent => (double mantissa exponent).significand != 0
  | .text value => value != ""
  | .list items => !items.isEmpty
  | .record fields => !fields.isEmpty

/-- A floating point number with its sign. -/
def decimalLiteral (mantissa : Int) (exponent : Nat) : String :=
  let sign := if mantissa < 0 then ['-'] else []
  String.ofList (sign ++ (double mantissa exponent).shown)

mutual

/-- The value as a literal of the generated language. -/
def literal : Value → String
  | .null => "None"
  | .truth true => "True"
  | .truth false => "False"
  | .integer value => toString value
  | .decimal mantissa exponent => decimalLiteral mantissa exponent
  | .text value => Text.Quoted.literal value
  | .list items => "[" ++ Text.joinStrings ", " (literals items) ++ "]"
  | .record fields => "\x7b" ++ Text.joinStrings ", " (fieldLiterals fields) ++ "\x7d"

/-- The literals of some values, in order. -/
def literals : List Value → List String
  | [] => []
  | item :: items => item.literal :: literals items

/-- The fields of a record as `key: value` pairs, in order. -/
def fieldLiterals : List (String × Value) → List String
  | [] => []
  | (key, value) :: fields =>
    (Text.Quoted.literal key ++ ": " ++ value.literal) :: fieldLiterals fields

end

/-- The value as it appears inside running text: texts as they are, all else as a literal. -/
def display : Value → String
  | .text value => value
  | value => value.literal

/-- The name of the value's type in the generated language. -/
def typeName : Value → String
  | .null => "NoneType"
  | .truth _ => "bool"
  | .integer _ => "int"
  | .decimal _ _ => "float"
  | .text _ => "str"
  | .list _ => "list"
  | .record _ => "dict"

/-- What one gets by going through a value item by item: the items of a list, the characters of a
text, the keys of a record. Other values have no items. -/
def items? : Value → Option (List Value)
  | .list items => some items
  | .text value => some (value.toList.map fun character => .text (String.singleton character))
  | .record fields => some (fields.map fun field => .text field.1)
  | _ => none

/-- Whether the value is a given text. Only a text equals a text. -/
def isText (value : Value) (expected : String) : Bool :=
  match value with
  | .text actual => actual == expected
  | _ => false

/-- Why a value cannot be used where a text or a list of texts is needed. -/
inductive Fault where
  /-- An item among texts to be joined is no text. -/
  | itemNotText (index : Nat) (item : Value)
  /-- There are no items to be joined. -/
  | notJoinable
  /-- There are no items to go through. -/
  | notIterable (value : Value)
  /-- A value put behind a directory is no text. -/
  | notPathPart (value : Value)
  /-- A value that stands for a whole path is no text. -/
  | notPath (value : Value)

/-- The wording of a fault. -/
def Fault.message : Fault → String
  | .itemNotText index item =>
    s!"sequence item {index}: expected str instance, {item.typeName} found"
  | .notJoinable => "can only join an iterable"
  | .notIterable value => "'" ++ value.typeName ++ "' object is not iterable"
  | .notPathPart value =>
    "join() argument must be str, bytes, or os.PathLike object, not '" ++ value.typeName ++ "'"
  | .notPath value => "expected str, bytes or os.PathLike object, not " ++ value.typeName

/-- The texts among some values, which all have to be texts. -/
def texts : List Value → Nat → Except Fault (List String)
  | [], _ => .ok []
  | .text value :: items, index =>
    match texts items (index + 1) with
    | .ok values => .ok (value :: values)
    | .error fault => .error fault
  | item :: _, index => .error (.itemNotText index item)

/-- Texts joined by blanks, and `<none>` when that gives nothing. -/
def joined (values : List String) : String :=
  let line := Text.joinStrings " " values
  if line = "" then "<none>" else line

/-- The items of a value joined by blanks, and `<none>` when that gives nothing. -/
def joinItems (value : Value) : Except Fault String :=
  match value.items? with
  | none => .error .notJoinable
  | some items =>
    match texts items 0 with
    | .ok values => .ok (joined values)
    | .error fault => .error fault

/-- A value as the part of a path behind a directory. -/
def pathPart : Value → Except Fault String
  | .text value => .ok value
  | value => .error (.notPathPart value)

/-- A value as a whole path. -/
def path : Value → Except Fault String
  | .text value => .ok value
  | value => .error (.notPath value)

/-- The items of a value, each taken by the function given. -/
def mapItems (take : Value → Except Fault String) (value : Value) :
    Except Fault (List String) :=
  match value.items? with
  | none => .error (.notIterable value)
  | some items => items.mapM take

/-- The items of a value as parts of paths behind a directory. -/
def pathParts (value : Value) : Except Fault (List String) :=
  value.mapItems pathPart

/-- The items of a value as whole paths. -/
def paths (value : Value) : Except Fault (List String) :=
  value.mapItems path

end Value

end ServiceStubs
