/-!
# Records of option values

The value of options after they have been understood: data by the names of fields, where a repeated
field may occur several times. The key of an extension is its complete name in brackets.
-/

namespace ServiceStubs.Schema

/-- A value that an option can have. -/
inductive Datum where
  | truth (value : Bool)
  | integer (value : Int)
  | real
  | text (content : List Char)
  | choice (name : String) (number : Int)
  | record (fields : List (String × Datum))

/-- Data by the names of fields. -/
abbrev Record := List (String × Datum)

namespace Record

/-- Whether a field is set. -/
def has (record : Record) (key : String) : Bool :=
  record.any fun entry => entry.1 == key

/-- All values of a field, in order. -/
def values (record : Record) (key : String) : List Datum :=
  record.filterMap fun entry => if entry.1 = key then some entry.2 else none

/-- The record that a field holds; an empty one if the field is not set. -/
def inner (record : Record) (key : String) : Record :=
  match (record.values key).head? with
  | some (.record fields) => fields
  | _ => []

/-- The record with a field set to a record. -/
def setInner (record : Record) (key : String) (fields : Record) : Record :=
  record.filter (fun entry => entry.1 != key) ++ [(key, .record fields)]

/-- Whether a field is set to true. -/
def isTrue (record : Record) (key : String) : Bool :=
  (record.values key).any fun datum =>
    match datum with
    | .truth value => value
    | _ => false

/-- The name of the value that a field is set to. -/
def choice? (record : Record) (key : String) : Option String :=
  (record.values key).head?.bind fun datum =>
    match datum with
    | .choice name _ => some name
    | _ => none

/-- The number that a field is set to. -/
def integer? (record : Record) (key : String) : Option Int :=
  (record.values key).head?.bind fun datum =>
    match datum with
    | .integer value => some value
    | _ => none

/-- The text that a field is set to. -/
def text? (record : Record) (key : String) : Option (List Char) :=
  (record.values key).head?.bind fun datum =>
    match datum with
    | .text content => some content
    | _ => none

/-- The records that a repeated field holds. -/
def inners (record : Record) (key : String) : List Record :=
  (record.values key).filterMap fun datum =>
    match datum with
    | .record fields => some fields
    | _ => none

end Record

end ServiceStubs.Schema
