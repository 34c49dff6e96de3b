/-!
# Tokens of the schema language

A schema file is scanned byte by byte; each byte stands as one character here, so characters above
ASCII appear only as parts of comments and string literals. Scanning gives the tokens without
blanks and comments, or nothing when the file holds something that is no token.
-/

namespace ServiceStubs.Schema

/-- A token. The content of a string literal is its bytes after escapes; of an integer it is known
whether it was written in decimal digits. -/
inductive Token where
  | identifier (name : String)
  | integer (value : Nat) (isDecimal : Bool)
  | float
  | text (content : List Char)
  | symbol (character : Char)
  deriving DecidableEq, Repr

namespace Token

/-- Characters between tokens. -/
def isBlank (character : Char) : Bool :=
  character == ' ' || (9 ≤ character.toNat && character.toNat ≤ 13)

/-- Characters that start a name. -/
def isLetter (character : Char) : Bool :=
  ('a' ≤ character && character ≤ 'z') || ('A' ≤ character && character ≤ 'Z') ||
    character == '_'

/-- Characters of a name after its first one. -/
def isNameCharacter (character : Char) : Bool :=
  isLetter character || character.isDigit

/-- Octal digits. -/
def isOctal (character : Char) : Bool :=
  '0' ≤ character && character ≤ '7'

/-- Hexadecimal digits. -/
def isHexadecimal (character : Char) : Bool :=
  character.isDigit || ('a' ≤ character && character ≤ 'f') ||
    ('A' ≤ character && character ≤ 'F')

/-- The value of a digit in any base up to sixteen. -/
def digitValue (character : Char) : Nat :=
  if character.isDigit then character.toNat - '0'.toNat
  else if 'a' ≤ character then character.toNat - 'a'.toNat + 10
  else character.toNat - 'A'.toNat + 10

/-- The number that digits spell in a base. -/
def numberOf (base : Nat) (digits : List Char) : Nat :=
  digits.foldl (fun number digit => number * base + digitValue digit) 0

/-- What follows a block comment whose opening has been read. Comments do not nest. -/
def afterComment : List Char → Option (List Char)
  | [] => none
  | '*' :: '/' :: rest => some rest
  | '/' :: '*' :: _ => none
  | character :: rest => if character.toNat = 0 then none else afterComment rest

/-- The end of a number: neither a name nor a point may follow it directly. -/
def endNumber (token : Token) (rest : List Char) : Option (Token × List Char) :=
  match rest with
  | [] => some (token, [])
  | next :: _ => if isLetter next || next == '.' then none else some (token, rest)

/-- The exponent of a decimal number, if there is one; `isFloat` says whether a point came before
it. -/
def exponent (isFloat : Bool) (value : Nat) (rest : List Char) : Option (Token × List Char) :=
  match rest with
  | [] => some (if isFloat then .float else .integer value true, [])
  | next :: more =>
    if next == 'e' || next == 'E' then
      let digits :=
        match more with
        | [] => []
        | sign :: after => if sign == '-' || sign == '+' then after else more
      match digits with
      | [] => none
      | digit :: _ =>
        if digit.isDigit then endNumber .float (digits.dropWhile Char.isDigit) else none
    else endNumber (if isFloat then .float else .integer value true) rest

/-- A number that starts with the given text: hexadecimal, octal or decimal. -/
def number (text : List Char) : Option (Token × List Char) :=
  let decimal :=
    let digits := text.takeWhile Char.isDigit
    match text.dropWhile Char.isDigit with
    | '.' :: rest => exponent true 0 (rest.dropWhile Char.isDigit)
    | rest => exponent false (numberOf 10 digits) rest
  match text with
  | '0' :: mark :: rest =>
    if mark == 'x' || mark == 'X' then
      let digits := rest.takeWhile isHexadecimal
      if digits.isEmpty then none
      else endNumber (.integer (numberOf 16 digits) false) (rest.dropWhile isHexadecimal)
    else if mark.isDigit then
      let digits := (mark :: rest).takeWhile Char.isDigit
      if digits.all isOctal then
        endNumber (.integer (numberOf 8 digits) false) ((mark :: rest).dropWhile Char.isDigit)
      else none
    else decimal
  | _ => decimal

/-- A byte of an encoded code point that is not its first: six bits of the code from the given
place on. -/
def laterByte (code place : Nat) : Char :=
  Char.ofNat (0x80 + code / place % 64)

/-- The digits of a number in base sixteen, at least eight of them. -/
def eightDigits (code : Nat) : List Char :=
  let digits := Nat.toDigits 16 code
  List.replicate (8 - digits.length) '0' ++ digits

/-- The bytes of a code, each as one character. Codes of surrogates are encoded like others; a code
that is too large is written as the escape it came from. -/
def bytesOf (code : Nat) : List Char :=
  if code < 0x80 then [Char.ofNat code]
  else if code < 0x800 then [Char.ofNat (0xc0 + code / 64), laterByte code 1]
  else if code < 0x10000 then
    [Char.ofNat (0xe0 + code / 4096), laterByte code 64, laterByte code 1]
  else if code < 0x110000 then
    [Char.ofNat (0xf0 + code / 262144), laterByte code 4096, laterByte code 64, laterByte code 1]
  else '\\' :: 'U' :: eightDigits code

/-- Whether a code is the first half of a pair. -/
def isHighHalf (code : Nat) : Bool :=
  0xd800 ≤ code && code < 0xdc00

/-- Whether a code is the second half of a pair. -/
def isLowHalf (code : Nat) : Bool :=
  0xdc00 ≤ code && code < 0xe000

/-- The code of a pair of halves. -/
def pairCode (high low : Nat) : Nat :=
  0x10000 + (high - 0xd800) * 1024 + (low - 0xdc00)

/-- The second half of a pair, if a text starts with the escape of one. -/
def lowHalf? : List Char → Option Nat
  | '\\' :: 'u' :: rest =>
    let digits := (rest.take 4).takeWhile isHexadecimal
    let code := numberOf 16 digits
    if digits.length = 4 ∧ isLowHalf code then some code else none
  | _ => none

/-- The bytes of an escaped code and the length of its escape, where `rest` follows the escape of
the code itself. Two halves of a pair make one code. -/
def codeEscape (code length : Nat) (rest : List Char) : List Char × Nat :=
  match if isHighHalf code then lowHalf? rest else none with
  | some low => (bytesOf (pairCode code low), length + 6)
  | none => (bytesOf code, length)

/-- The character that a one-letter escape stands for. -/
def simpleEscape : Char → Option Char
  | 'a' => some (Char.ofNat 7)
  | 'b' => some (Char.ofNat 8)
  | 'f' => some (Char.ofNat 12)
  | 'n' => some '\n'
  | 'r' => some '\r'
  | 't' => some '\t'
  | 'v' => some (Char.ofNat 11)
  | '\\' => some '\\'
  | '?' => some '?'
  | '\'' => some '\''
  | '"' => some '"'
  | _ => none

/-- The escape after a backslash: its bytes and how many characters it takes. -/
def escape (text : List Char) : Option (List Char × Nat) :=
  match text with
  | [] => none
  | mark :: rest =>
    match simpleEscape mark with
    | some character => some ([character], 1)
    | none =>
      if isOctal mark then
        let digits := mark :: (rest.take 2).takeWhile isOctal
        some ([Char.ofNat (numberOf 8 digits % 256)], digits.length)
      else if mark == 'x' || mark == 'X' then
        let digits := (rest.take 2).takeWhile isHexadecimal
        if digits.isEmpty then none
        else some ([Char.ofNat (numberOf 16 digits)], digits.length + 1)
      else if mark == 'u' then
        let digits := (rest.take 4).takeWhile isHexadecimal
        if digits.length = 4 then some (codeEscape (numberOf 16 digits) 5 (rest.drop 4)) else none
      else if mark == 'U' then
        let digits := (rest.take 8).takeWhile isHexadecimal
        if digits.length = 8 ∧ numberOf 16 digits < 0x200000 then
          some (codeEscape (numberOf 16 digits) 9 (rest.drop 8))
        else none
      else none

/-- The content of a string literal whose opening quote has been read, and what follows it. -/
def textContent (quote : Char) : List Char → Option (List Char × List Char)
  | [] => none
  | character :: rest =>
    if character = quote then some ([], rest)
    else if character = '\n' ∨ character.toNat = 0 then none
    else if character = '\\' then
      match escape rest with
      | none => none
      | some (bytes, length) =>
        match textContent quote (rest.drop length) with
        | none => none
        | some (content, after) => some (bytes ++ content, after)
    else
      match textContent quote rest with
      | none => none
      | some (content, after) => some (character :: content, after)
termination_by text => text.length
decreasing_by
  all_goals simp only [List.length_drop, List.length_cons]; omega

/-- Whether a text starts with a point and a digit. -/
def startsWithFraction : List Char → Bool
  | '.' :: digit :: _ => digit.isDigit
  | _ => false

/-- The first token of a text, or nothing for a blank or a comment, and what follows. -/
def lexeme (first : Char) (rest : List Char) : Option (Option Token × List Char) :=
  if isBlank first then some (none, rest)
  else if isLetter first then
    let after := rest.dropWhile isNameCharacter
    if startsWithFraction after then none
    else
      some (some (.identifier (String.ofList (first :: rest.takeWhile isNameCharacter))), after)
  else if first.isDigit then
    (number (first :: rest)).map fun result => (some result.1, result.2)
  else if first = '.' ∧ startsWithFraction (first :: rest) then
    (exponent true 0 (rest.dropWhile Char.isDigit)).map fun result => (some result.1, result.2)
  else if first = '"' ∨ first = '\'' then
    (textContent first rest).map fun result => (some (.text result.1), result.2)
  else if first = '/' ∧ rest.head? = some '/' then
    some (none, rest.dropWhile fun character => character != '\n' && character.toNat != 0)
  else if first = '/' ∧ rest.head? = some '*' then
    (afterComment (rest.drop 1)).map fun after => (none, after)
  else if first.toNat < 0x20 ∨ 0x80 ≤ first.toNat then none
  else some (some (.symbol first), rest)

/-- The tokens of a text. A lexeme always leaves less text than it was given. -/
def scan : List Char → Option (List Token)
  | [] => some []
  | first :: rest =>
    match lexeme first rest with
    | none => none
    | some (token, after) =>
      if after.length ≤ rest.length then (scan after).map (token.toList ++ ·) else none
termination_by text => text.length

/-- The tokens of a file. A byte order mark at its start is skipped. -/
def ofBytes (bytes : List UInt8) : Option (List Token) :=
  let text := bytes.map fun byte => Char.ofNat byte.toNat
  let mark := [Char.ofNat 0xef, Char.ofNat 0xbb, Char.ofNat 0xbf]
  scan (if mark.isPrefixOf text then text.drop mark.length else text)

end Token

end ServiceStubs.Schema
