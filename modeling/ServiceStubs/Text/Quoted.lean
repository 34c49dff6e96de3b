import ServiceStubs.Text.Printable

/-!
# Quoted literals

A text is written between two equal quotes. Backslashes, the quote itself, line breaks, tabs and
all characters that are not printable are written as escapes, so a literal is always one line of
printable characters. `encodeWith` takes the quote; `encode` chooses it so that the fewest
escapes are needed when only one kind of quote occurs.
-/

namespace ServiceStubs.Text.Quoted

/-- The digits of a number in lower-case hexadecimal, padded with zeros to a width. -/
def hexadecimal (width number : Nat) : List Char :=
  let digits := Nat.toDigits 16 number
  List.replicate (width - digits.length) '0' ++ digits

/-- How one character is written between the given quotes. -/
def escape (quote character : Char) : List Char :=
  if character = quote ∨ character = '\\' then ['\\', character]
  else if character = '\n' then ['\\', 'n']
  else if character = '\r' then ['\\', 'r']
  else if character = '\t' then ['\\', 't']
  else if isPrintable character then [character]
  else if character.toNat < 0x100 then '\\' :: 'x' :: hexadecimal 2 character.toNat
  else if character.toNat < 0x10000 then '\\' :: 'u' :: hexadecimal 4 character.toNat
  else '\\' :: 'U' :: hexadecimal 8 character.toNat

/-- The literal of a text between the given quotes. -/
def encodeWith (quote : Char) (text : List Char) : List Char :=
  quote :: text.flatMap (escape quote) ++ [quote]

/-- Single quotes, unless the text holds single quotes and no double quote. -/
def defaultQuote (text : List Char) : Char :=
  if '\'' ∈ text ∧ '"' ∉ text then '"' else '\''

/-- The literal of a text. -/
def encode (text : List Char) : List Char :=
  encodeWith (defaultQuote text) text

/-- `encode` on strings. -/
def literal (text : String) : String :=
  String.ofList (encode text.toList)

end ServiceStubs.Text.Quoted
