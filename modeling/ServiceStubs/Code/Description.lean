import ServiceStubs.Code.Layout

/-!
# The layout of descriptions

A description is a literal that is a statement of its own. Its lines lose the blanks at their
ends, and the lines after the first one are moved together, so that the least indented one stands
where the description starts. A description in which a backslash hides a line break stays as it
is.
-/

namespace ServiceStubs.Code.Description

/-- The characters that count as white space. -/
def isWhite (character : Char) : Bool :=
  let code := character.toNat
  (9 ≤ code && code ≤ 13) || code == 0x20 || code == 0x85 || code == 0xa0 || code == 0x1680 ||
    (0x2000 ≤ code && code ≤ 0x200a) || code == 0x2028 || code == 0x2029 || code == 0x202f ||
    code == 0x205f || code == 0x3000

/-- A line without the white space at its start. -/
def trimStart (line : List Char) : List Char :=
  line.dropWhile isWhite

/-- A line without the white space at its end. -/
def trimEnd (line : List Char) : List Char :=
  (line.reverse.dropWhile isWhite).reverse

/-- Whether a backslash is followed by blanks and a line break. -/
def hidesBreak : List Char → Bool
  | [] => false
  | '\\' :: rest => (rest.dropWhile Token.isBlank).head? == some '\n' || hidesBreak rest
  | _ :: rest => hidesBreak rest

/-- The columns from one tab stop to the next in indentations. -/
def tabStop : Nat := 8

/-- The indentation after one more character of white space. A tab goes to the next stop, and any
other character counts as many columns as it has bytes. -/
def indentAfter (indent : Nat) (character : Char) : Nat :=
  if character = '\t' then indent + (tabStop - indent % tabStop) else indent + character.utf8Size

/-- How far a line is indented. -/
def indentOf (line : List Char) : Nat :=
  (line.takeWhile isWhite).foldl indentAfter 0

/-- The smallest indentation of the lines that are not empty. -/
def leastIndent (lines : List (List Char)) : Nat :=
  ((lines.filter fun line => !(trimEnd line).isEmpty).map indentOf).min?.getD 0

/-- A later line of a description: without the common indentation, and after the indentation of
the description. An empty line has no indentation. -/
def laterLine (indent common : Nat) (line : List Char) : String :=
  if (trimEnd line).isEmpty then ""
  else
    Text.blanks (indent + (indentOf line - common)) ++ String.ofList (trimStart (trimEnd line))

/-- The lines of the text of a description, without its quotes. The quotes that close it may stand
on a line of their own. -/
def textLines (indent : Nat) (content : List Char) : List String :=
  match Text.splitAt '\n' content with
  | [] => []
  | first :: later =>
    let common := leastIndent later
    let isLastEmpty := later.getLast?.any fun line => (trimEnd line).isEmpty
    String.ofList (trimStart (trimEnd first)) ::
      (if isLastEmpty then later.dropLast else later).map (laterLine indent common) ++
      (if isLastEmpty then [Text.blanks indent] else [])

/-- The literal of a description with its text laid out. -/
def layOut (indent : Nat) (literal : Literal) : Literal :=
  let tidied := literal.tidy
  if hidesBreak tidied.content then tidied
  else
    { tidied with
      content := (Text.joinStrings "\n" (textLines indent tidied.content)).toList }

end ServiceStubs.Code.Description

namespace ServiceStubs.Code

/-- The lines of an expression that stands where a description is expected. Anything but a single
literal is laid out as a statement. -/
def Expression.description (indent : Nat) : Expression → List String
  | .literals [literal] => [Text.blanks indent ++ (Description.layOut indent literal).text]
  | expression => expression.statement indent

end ServiceStubs.Code
