import ServiceStubs.Code.Expression
import ServiceStubs.Text.Split
import ServiceStubs.Text.Width

/-!
# The layout of expressions

How an expression is put on lines. It stands on one line where that fits; otherwise its outermost
brackets open, with the items on a line of their own or each on its own line, and the items are
laid out in the same way. A value that is assigned may also get brackets around it. Literals are
written in their tidy form.
-/

namespace ServiceStubs.Code

/-- The widest line, in columns. -/
def widestLine : Nat := 320

/-- How much deeper the inside of brackets stands. -/
def indentStep : Nat := 4

/-- Whether a text is one line within the limit. -/
def fits (line : String) : Bool :=
  !line.contains '\n' && Text.columns line.toList ≤ widestLine

namespace Expression

/-- Literals side by side, joined where that can be done. -/
def literalsText (items : List Literal) : String :=
  match Literal.joined? items with
  | some literal => literal.text
  | none => Text.joinStrings " " (items.map fun item => item.tidy.text)

/-- Items on one line between brackets. A comma is kept only where it makes a list of one. -/
def itemsText (bracket : Bracket) (isCall : Bool) (items : List String) (hasComma : Bool) :
    String :=
  let ending := if hasComma && !isCall && items.length == 1 && bracket == .round then "," else ""
  bracket.opening ++ Text.joinStrings ", " items ++ ending ++ bracket.closing

mutual

/-- An expression on one line. -/
def flat : Expression → String
  | word text => text
  | literals items => literalsText items
  | enclosed bracket items hasComma => itemsText bracket false (flatItems items) hasComma
  | applied function bracket items hasComma =>
    function.flat ++ itemsText bracket true (flatItems items) hasComma
  | member value name => value.flat ++ "." ++ name
  | labelled label value => label ++ value.flat
  | operation left operator right => left.flat ++ " " ++ operator ++ " " ++ right.flat

/-- Each of some expressions on one line. -/
def flatItems : List Expression → List String
  | [] => []
  | item :: items => item.flat :: flatItems items

end

mutual

/-- Whether a comma after the last item opens some brackets of an expression. The comma of a list
of one in round brackets is there for the list, and opens nothing. -/
def isOpen : Expression → Bool
  | word _ => false
  | literals _ => false
  | enclosed bracket items hasComma =>
    (hasComma && !(bracket == .round && items.length == 1)) || areOpen items
  | applied function _ items hasComma => hasComma || function.isOpen || areOpen items
  | member value _ => value.isOpen
  | labelled _ value => value.isOpen
  | operation left _ right => left.isOpen || right.isOpen

/-- Whether some brackets of one of some expressions are open. -/
def areOpen : List Expression → Bool
  | [] => false
  | item :: items => item.isOpen || areOpen items

end

/-- The operands of an expression, each on one line and after its operator. -/
def operands : Expression → List String
  | operation left operator right => left.operands ++ [operator ++ " " ++ right.flat]
  | expression => [expression.flat]

/-- Texts one below the other, with the given beginning and ending. -/
def stack (indent : Nat) (before after : String) : List String → List String
  | [] => [before ++ after]
  | [last] => [before ++ last ++ after]
  | first :: next :: rest =>
    (before ++ first) :: stack indent (Text.blanks indent) after (next :: rest)

/-- Whether an expression stands on one line between a given beginning and ending. -/
def fitsBetween (before after : String) (expression : Expression) : Bool :=
  !expression.isOpen && fits (before ++ expression.flat ++ after)

mutual

/-- The lines of an expression that does not stand on one line, between a given beginning of its
first line and a given ending of its last. Brackets close at the given indentation. -/
def broken (indent : Nat) (before after : String) : Expression → List String
  | word text => [before ++ text ++ after]
  | literals items => stack indent before after (items.map fun item => item.tidy.text)
  | enclosed bracket items hasComma =>
    if items.isEmpty then [before ++ bracket.opening ++ bracket.closing ++ after]
    else
      (before ++ bracket.opening) ::
        itemLines (indent + indentStep) (hasComma || 1 < items.length) items ++
        [Text.blanks indent ++ bracket.closing ++ after]
  | applied function bracket items hasComma =>
    let start := before ++ function.flat ++ bracket.opening
    let inner := Text.blanks (indent + indentStep) ++ Text.joinStrings ", " (flatItems items)
    if items.isEmpty then [start ++ bracket.closing ++ after]
    else
      start ::
        (if !hasComma && !areOpen items && fits inner then [inner]
          else itemLines (indent + indentStep) (hasComma || 1 < items.length) items) ++
        [Text.blanks indent ++ bracket.closing ++ after]
  | member value name => value.broken indent before ("." ++ name ++ after)
  | labelled label value => value.broken indent (before ++ label) after
  | operation left operator right =>
    stack indent before after (left.operands ++ [operator ++ " " ++ right.flat])

/-- The lines of items one below the other, with a comma after each, or after each but the
last. -/
def itemLines (indent : Nat) (hasComma : Bool) : List Expression → List String
  | [] => []
  | item :: items =>
    let start := Text.blanks indent
    let ending := if hasComma || !items.isEmpty then "," else ""
    (if item.fitsBetween start ending then [start ++ item.flat ++ ending]
      else item.broken indent start ending) ++
      itemLines indent hasComma items

end

/-- The lines of an expression between a given beginning of its first line and a given ending of
its last. -/
def lines (indent : Nat) (before after : String) (expression : Expression) : List String :=
  if expression.fitsBetween before after then [before ++ expression.flat ++ after]
  else expression.broken indent before after

/-- The lines of a value between brackets that are there only to break the line. -/
def bracketedLines (indent : Nat) (before : String) (value : Expression) : List String :=
  let inner := indent + indentStep
  (before ++ "(") :: value.lines inner (Text.blanks inner) "" ++ [Text.blanks indent ++ ")"]

/-- The lines of an expression that is a statement. -/
def statement (indent : Nat) (expression : Expression) : List String :=
  if expression.fitsBetween (Text.blanks indent) "" then [Text.blanks indent ++ expression.flat]
  else expression.bracketedLines indent (Text.blanks indent)

/-- The lines of an assignment. The value gets brackets around it if it is too wide without them
and fits with them. -/
def assignment (indent : Nat) (target : String) (value : Expression) : List String :=
  let before := Text.blanks indent ++ target ++ " = "
  let plain := value.lines indent before ""
  let bracketed := value.bracketedLines indent before
  match value with
  | enclosed .. => plain
  | _ => if !plain.all fits && bracketed.all fits then bracketed else plain

end Expression

end ServiceStubs.Code
