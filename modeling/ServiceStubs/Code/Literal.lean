import ServiceStubs.Text.CharacterName
import ServiceStubs.Text.Newline

/-!
# String literals in code

A literal is kept as it is written: its quotes and the text between them, escapes and all. It can
be read from code, checked for improper escapes, and brought into its tidy form, which means the
same. What a literal means is not computed here.
-/

namespace ServiceStubs.Code

/-- A string literal. Triple quotes may hold line breaks and single quotes. -/
structure Literal where
  quote : Char
  isTriple : Bool
  content : List Char
  deriving DecidableEq, Repr

/-- Whether a character opens a literal. -/
def isQuote (character : Char) : Bool :=
  character == '"' || character == '\''

/-- The other one of the two quotes. -/
def otherQuote (quote : Char) : Char :=
  if quote = '"' then '\'' else '"'

namespace Literal

/-- The text of a literal up to its closing quotes, and the code after them. What was passed is
given last character first. -/
def contentFrom (quote : Char) (isTriple : Bool) (passed : List Char) :
    List Char → Option (List Char × List Char)
  | [] => none
  | '\\' :: '\r' :: '\n' :: rest => contentFrom quote isTriple ('\n' :: '\\' :: passed) rest
  | '\\' :: character :: rest => contentFrom quote isTriple (character :: '\\' :: passed) rest
  | character :: rest =>
    if character = quote ∧ !isTriple then some (passed.reverse, rest)
    else if character = quote ∧ [quote, quote].isPrefixOf rest then
      some (passed.reverse, rest.drop 2)
    else if !isTriple ∧ (character = '\n' ∨ character = '\r') then none
    else contentFrom quote isTriple (character :: passed) rest

/-- The literal that code starts with, after its first quote, and the code after the literal. -/
def read? (quote : Char) (code : List Char) : Option (Literal × List Char) :=
  let isTriple := [quote, quote].isPrefixOf code
  (contentFrom quote isTriple [] (if isTriple then code.drop 2 else code)).map
    fun (content, rest) => (⟨quote, isTriple, Text.unifyNewlines content⟩, rest)

/-- Hexadecimal digits. -/
def isHexadecimal (character : Char) : Bool :=
  character.isDigit || ('a' ≤ character && character ≤ 'f') ||
    ('A' ≤ character && character ≤ 'F')

/-- The hexadecimal digits that an escape takes, if they are all there. -/
def escapeDigits? (count : Nat) (text : List Char) : Option (List Char) :=
  let digits := text.take count
  if digits.length = count ∧ digits.all isHexadecimal then some digits else none

/-- The name in braces that a text starts with. -/
def bracedName? : List Char → Option (List Char)
  | '\x7b' :: rest => if '\x7d' ∈ rest then some (rest.takeWhile (· ≠ '\x7d')) else none
  | _ => none

/-- Whether the digits of an escape are at most the number of the last character. -/
def isCodePoint (digits : List Char) : Bool :=
  (Text.CharacterName.codeOf? (digits.map Char.toUpper)).any (· ≤ 0x10ffff)

/-- Whether an escape is proper, given the character after the backslash and the text after that.
Only the escapes that give a code point or a name can be improper. -/
def isEscape (selector : Char) (rest : List Char) : Bool :=
  match selector with
  | 'x' => (escapeDigits? 2 rest).isSome
  | 'u' => (escapeDigits? 4 rest).isSome
  | 'U' => (escapeDigits? 8 rest).any isCodePoint
  | 'N' => (bracedName? rest).any Text.isCharacterName
  | _ => true

/-- Whether all escapes in the text of a literal are proper. -/
def hasProperEscapes : List Char → Bool
  | [] => true
  | '\\' :: selector :: rest => isEscape selector rest && hasProperEscapes rest
  | _ :: rest => hasProperEscapes rest

/-- Characters of a name that tidying writes in capitals. -/
def isNameCharacter (character : Char) : Bool :=
  character.isAlpha || character.isDigit || character == ' ' || character == '-'

/-- What belongs to an escape after its first two characters, in the tidy letter case: digits are
written with small letters and names with capitals. -/
def tidyArgument (selector : Char) (rest : List Char) : List Char :=
  match selector with
  | 'x' => ((escapeDigits? 2 rest).getD []).map Char.toLower
  | 'u' => ((escapeDigits? 4 rest).getD []).map Char.toLower
  | 'U' => ((escapeDigits? 8 rest).getD []).map Char.toLower
  | 'N' =>
    match bracedName? rest with
    | some name =>
      if 2 ≤ name.length ∧ name.all isNameCharacter then
        '\x7b' :: name.map Char.toUpper ++ ['\x7d']
      else []
    | none => []
  | _ => []

/-- The tidy text of a literal between the given quotes. Between single marks, the quote is
escaped and the other quote is not; between triple marks, quotes stay as they are. -/
def tidyContent (quote : Char) (isTriple : Bool) : List Char → List Char
  | [] => []
  | '\\' :: selector :: rest =>
    if !isTriple ∧ selector = otherQuote quote then
      selector :: tidyContent quote isTriple rest
    else
      let argument := tidyArgument selector rest
      '\\' :: selector :: argument ++ tidyContent quote isTriple (rest.drop argument.length)
  | character :: rest =>
    if !isTriple ∧ character = quote then '\\' :: character :: tidyContent quote isTriple rest
    else character :: tidyContent quote isTriple rest
termination_by content => content.length
decreasing_by
  all_goals simp only [List.length_drop, List.length_cons]; omega

/-- Whether double triple quotes would end a text early: it holds three double quotes in a row, or
ends with one. -/
def clashesWithTriple : List Char → Bool
  | [] => false
  | '\\' :: '"' :: rest => clashesWithTriple rest
  | '\\' :: '\\' :: rest => clashesWithTriple rest
  | '"' :: '"' :: '"' :: _ => true
  | ['"'] => true
  | _ :: rest => clashesWithTriple rest

/-- Double quotes, unless the texts hold more double quotes than single ones. -/
def balancedQuote (contents : List (List Char)) : Char :=
  if contents.flatten.count '\'' < contents.flatten.count '"' then '\'' else '"'

/-- The quote of the tidy form. -/
def tidyQuote (literal : Literal) : Char :=
  if literal.isTriple then
    if literal.quote = '"' ∨ !clashesWithTriple literal.content then '"' else '\''
  else balancedQuote [literal.content]

/-- The tidy form of a literal. -/
def tidy (literal : Literal) : Literal :=
  { literal with
    quote := literal.tidyQuote
    content := tidyContent literal.tidyQuote literal.isTriple literal.content }

/-- The tidy literal that says the same as literals side by side. Triple quotes are not joined. -/
def joined? (literals : List Literal) : Option Literal :=
  if literals.any (·.isTriple) then none
  else
    let contents := literals.map (·.content)
    let quote := balancedQuote contents
    some ⟨quote, false, contents.flatMap (tidyContent quote false)⟩

/-- The literal as code. -/
def text (literal : Literal) : String :=
  let marks := List.replicate (if literal.isTriple then 3 else 1) literal.quote
  String.ofList (marks ++ literal.content ++ marks)

end Literal

end ServiceStubs.Code
