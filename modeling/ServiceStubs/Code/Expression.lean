import ServiceStubs.Code.Literal

/-!
# Expressions in code

The expressions of a stub module: literals and words, brackets, calls, members and operators. An
expression is read without regard to which operator binds tighter, since that changes neither
whether it can be read nor how it is written. Statements, and the expressions that a stub module
cannot hold, are not read.
-/

namespace ServiceStubs.Code

/-- A token. Brackets, commas and operators are all marks. -/
inductive Token where
  | word (text : String)
  | literal (content : Literal)
  | mark (text : String)
  deriving DecidableEq, Repr

/-- The brackets that items are put between. -/
inductive Bracket where
  | round
  | square
  deriving DecidableEq, Repr

namespace Bracket

/-- The opening bracket. -/
def opening : Bracket → String
  | round => "("
  | square => "["

/-- The closing bracket. -/
def closing : Bracket → String
  | round => ")"
  | square => "]"

end Bracket

/-- An expression. Items between brackets may have a comma after the last one; then they are
written one below the other. -/
inductive Expression where
  /-- A name or a number. -/
  | word (text : String)
  /-- Literals side by side, which say their texts one after another. -/
  | literals (items : List Literal)
  /-- Items between brackets. -/
  | enclosed (bracket : Bracket) (items : List Expression) (hasComma : Bool)
  /-- An expression with items in brackets after it. -/
  | applied (function : Expression) (bracket : Bracket) (items : List Expression)
    (hasComma : Bool)
  /-- A member of a value. -/
  | member (value : Expression) (name : String)
  /-- An item with a mark or a name in front of it. -/
  | labelled (label : String) (value : Expression)
  /-- Two operands with an operator between them. -/
  | operation (left : Expression) (operator : String) (right : Expression)

namespace Token

/-- Blanks within a line. -/
def isBlank (character : Char) : Bool :=
  character == ' ' || character == '\t' || character == '\x0c'

/-- Line breaks. -/
def isBreak (character : Char) : Bool :=
  character == '\n' || character == '\r'

/-- Characters of words. -/
def isWordCharacter (character : Char) : Bool :=
  character.isAlpha || character.isDigit || character == '_'

/-- Words that change the meaning of a literal directly after them. -/
def literalWords : List String :=
  ["r", "u", "b", "f", "t", "br", "rb", "fr", "rf", "tr", "rt"]

/-- Marks, longer ones before their beginnings. -/
def marks : List String :=
  ["**", "//", "<<", ">>", "<=", ">=", "==", "!=", "+", "-", "*", "/", "%", "@", "&", "|", "^",
    "<", ">", "(", ")", "[", "]", ",", ".", "="]

/-- The token at a character that is no blank, and the code after it. -/
def lexeme (first : Char) (rest : List Char) : Option (Token × List Char) :=
  if isQuote first then
    (Literal.read? first rest).map fun (content, after) => (.literal content, after)
  else if isWordCharacter first then
    let word := String.ofList (first :: rest.takeWhile isWordCharacter)
    let after := rest.dropWhile isWordCharacter
    if after.head?.any isQuote ∧ literalWords.contains word.toLower then none
    else some (.word word, after)
  else
    (marks.find? fun mark => mark.toList.isPrefixOf (first :: rest)).map fun mark =>
      (.mark mark, rest.drop (mark.length - 1))

/-- How many brackets are open after a token. -/
def depthAfter (depth : Nat) : Token → Nat
  | .mark "(" => depth + 1
  | .mark "[" => depth + 1
  | .mark ")" => depth - 1
  | .mark "]" => depth - 1
  | _ => depth

/-- The tokens of code in which some brackets are open. Lines may only break inside brackets and
literals. -/
def scan (depth : Nat) : List Char → Option (List Token)
  | [] => some []
  | first :: rest =>
    if isBlank first ∨ (isBreak first ∧ 0 < depth) then scan depth rest
    else
      match lexeme first rest with
      | none => none
      | some (token, after) =>
        if after.length ≤ rest.length then
          (scan (depthAfter depth token) after).map (token :: ·)
        else none
termination_by code => code.length

end Token

namespace Expression

/-- Words that are no names. -/
def reservedWords : List String :=
  ["and", "as", "assert", "async", "await", "break", "class", "continue", "def", "del", "elif",
    "else", "except", "finally", "for", "from", "global", "if", "import", "in", "is", "lambda",
    "nonlocal", "not", "or", "pass", "raise", "return", "try", "while", "with", "yield"]

/-- Words that are values of their own and no names. -/
def valueWords : List String := ["None", "True", "False"]

/-- Whether a word is a name, a value or a number. -/
def isOperand (word : String) : Bool :=
  !reservedWords.contains word &&
    (!(word.toList.head?.any Char.isDigit) || word.toList.all Char.isDigit)

/-- Whether a word is a name. -/
def isName (word : String) : Bool :=
  !reservedWords.contains word && !valueWords.contains word &&
    !(word.toList.head?.any Char.isDigit)

/-- Marks that stand between operands. -/
def operatorMarks : List String :=
  ["//", "<<", ">>", "<=", ">=", "==", "!=", "+", "-", "*", "/", "%", "@", "&", "|", "^", "<", ">"]

/-- Words that stand between operands. -/
def operatorWords : List String := ["and", "or", "in", "is", "if", "else"]

/-- The operator that tokens start with. -/
def operator? : List Token → Option (String × List Token)
  | .word "not" :: .word "in" :: rest => some ("not in", rest)
  | .word "is" :: .word "not" :: rest => some ("is not", rest)
  | .word text :: rest => if operatorWords.contains text then some (text, rest) else none
  | .mark text :: rest => if operatorMarks.contains text then some (text, rest) else none
  | _ => none

/-- The operators between the operands of an expression, in order. -/
def operators : Expression → List String
  | operation left operator right => left.operators ++ operator :: right.operators
  | _ => []

/-- Whether every condition in an expression has both its words: after each `if` comes an `else`
before the next `if`. -/
def hasWholeConditions (expression : Expression) : Bool :=
  let words := expression.operators.filter fun operator => operator == "if" || operator == "else"
  words == (List.replicate (words.length / 2) ["if", "else"]).flatten

/-- The label of an item, or nothing for a plain item. -/
def label? : Expression → Option String
  | labelled label _ => some label
  | _ => none

/-- Whether a label is a name with an equals sign. -/
def isNameLabel (label : String) : Bool :=
  label != "*" && label != "**"

/-- Whether the items of a call stand in a permitted order: after a named item or a spread of
named items no plain item follows, after the latter no spread, and no name comes twice. -/
def isCallOrder (items : List Expression) : Bool :=
  let labels := items.map label?
  let names := (labels.filterMap id).filter isNameLabel
  names.eraseDups == names &&
    (labels.dropWhile fun label => label == none || label == some "*").all (· != none) &&
    (labels.dropWhile (· != some "**")).all (· != some "*")

/-- Whether items may stand between brackets that follow no expression. A spread is no value of
its own. -/
def isEnclosable (bracket : Bracket) (items : List Expression) (hasComma : Bool) : Bool :=
  items.all (fun item => item.label? == none || item.label? == some "*") &&
    !(bracket == .round && items.length == 1 && !hasComma && items.any (·.label?.isSome))

/-- Whether items may stand between brackets after an expression. -/
def isApplicable (bracket : Bracket) (items : List Expression) : Bool :=
  match bracket with
  | .round => isCallOrder items
  | .square => !items.isEmpty && items.all fun item => item.label? == none

mutual

/-- Reads an expression. Every step takes a token, so the number of tokens bounds the steps. -/
def expression? : Nat → List Token → Option (Expression × List Token)
  | 0, _ => none
  | fuel + 1, tokens => do
    let (operand, rest) ← operand? fuel tokens
    let (expression, rest) ← operations? fuel operand rest
    if expression.hasWholeConditions then some (expression, rest) else none

/-- Reads the operators and operands after an operand. -/
def operations? : Nat → Expression → List Token → Option (Expression × List Token)
  | 0, _, _ => none
  | fuel + 1, left, tokens =>
    match operator? tokens with
    | none => some (left, tokens)
    | some (operator, rest) => do
      let (right, rest) ← operand? fuel rest
      operations? fuel (.operation left operator right) rest

/-- Reads an operand: literals, a word or brackets, and what is attached to it. -/
def operand? : Nat → List Token → Option (Expression × List Token)
  | 0, _ => none
  | fuel + 1, tokens =>
    match tokens with
    | .literal first :: rest =>
      let others := rest.takeWhile fun token => token matches .literal _
      let literals := others.filterMap fun
        | .literal literal => some literal
        | _ => none
      attached? fuel (.literals (first :: literals)) (rest.drop others.length)
    | .word text :: rest =>
      if isOperand text then attached? fuel (.word text) rest else none
    | .mark "(" :: rest => do
      let (items, hasComma, rest) ← items? fuel .round [] rest
      if isEnclosable .round items hasComma then
        attached? fuel (.enclosed .round items hasComma) rest
      else none
    | .mark "[" :: rest => do
      let (items, hasComma, rest) ← items? fuel .square [] rest
      if isEnclosable .square items hasComma then
        attached? fuel (.enclosed .square items hasComma) rest
      else none
    | _ => none

/-- Reads the members, calls and places after a value. -/
def attached? : Nat → Expression → List Token → Option (Expression × List Token)
  | 0, _, _ => none
  | fuel + 1, value, tokens =>
    match tokens with
    | .mark "." :: .word name :: rest =>
      if isName name then attached? fuel (.member value name) rest else none
    | .mark "(" :: rest => do
      let (items, hasComma, rest) ← items? fuel .round [] rest
      if isApplicable .round items then
        attached? fuel (.applied value .round items hasComma) rest
      else none
    | .mark "[" :: rest => do
      let (items, hasComma, rest) ← items? fuel .square [] rest
      if isApplicable .square items then
        attached? fuel (.applied value .square items hasComma) rest
      else none
    | _ => some (value, tokens)

/-- Reads the items up to a closing bracket, and whether a comma stands after the last one. The
items already read are given last one first. -/
def items? : Nat → Bracket → List Expression → List Token →
    Option (List Expression × Bool × List Token)
  | 0, _, _, _ => none
  | fuel + 1, bracket, passed, tokens =>
    if tokens.head? = some (.mark bracket.closing) then
      some (passed.reverse, !passed.isEmpty, tokens.drop 1)
    else do
      let (item, rest) ← item? fuel tokens
      match rest with
      | .mark "," :: rest => items? fuel bracket (item :: passed) rest
      | .mark mark :: rest =>
        if mark = bracket.closing then some ((item :: passed).reverse, false, rest) else none
      | _ => none

/-- Reads an item. -/
def item? : Nat → List Token → Option (Expression × List Token)
  | 0, _ => none
  | fuel + 1, tokens =>
    match tokens with
    | .mark "*" :: rest => (expression? fuel rest).map fun (value, rest) =>
      (.labelled "*" value, rest)
    | .mark "**" :: rest => (expression? fuel rest).map fun (value, rest) =>
      (.labelled "**" value, rest)
    | .word name :: .mark "=" :: rest =>
      if isName name then
        (expression? fuel rest).map fun (value, rest) => (.labelled (name ++ "=") value, rest)
      else none
    | _ => expression? fuel tokens

end

mutual

/-- Whether all literals in an expression have proper escapes. -/
def hasProperLiterals : Expression → Bool
  | word _ => true
  | literals items => items.all fun literal => Literal.hasProperEscapes literal.content
  | enclosed _ items _ => haveProperLiterals items
  | applied function _ items _ => function.hasProperLiterals && haveProperLiterals items
  | member value _ => value.hasProperLiterals
  | labelled _ value => value.hasProperLiterals
  | operation left _ right => left.hasProperLiterals && right.hasProperLiterals

/-- `hasProperLiterals` for every one of some expressions. -/
def haveProperLiterals : List Expression → Bool
  | [] => true
  | item :: items => item.hasProperLiterals && haveProperLiterals items

end

/-- The expression that a piece of code is. Each token is read at most once by each kind of
reader, which bounds the steps. -/
def ofCode? (code : String) : Option Expression := do
  let tokens ← Token.scan 0 code.toList
  let (expression, rest) ← expression? (6 * tokens.length + 6) tokens
  if rest.isEmpty ∧ expression.hasProperLiterals then some expression else none

end Expression

end ServiceStubs.Code
