import ServiceStubs.Text.CharacterName.Table

/-!
# Character names

Whether a text names a character. Names are compared loosely: letter case, blanks, low lines and
hyphens inside a word do not matter. A name is in the table, or says the code point of its
character, or spells the letters of a Korean syllable. Which character a name stands for is not
needed.
-/

namespace ServiceStubs.Text.CharacterName

/-- Letters and digits of names. -/
def isWordCharacter (character : Char) : Bool :=
  character.isAlpha || character.isDigit

/-- Blanks in a name. -/
def isSpacing (character : Char) : Bool :=
  character == ' ' || character == '\t' || character == '\n' || character == '\r' ||
    character == '\x0c' || character == '_'

/-- The loose form of a name, given what stands before it. -/
def looseAfter (before : Char) : List Char → List Char
  | [] => []
  | character :: rest =>
    let isMedial := character == '-' && isWordCharacter before && rest.head?.any isWordCharacter
    if isSpacing character || isMedial then looseAfter character rest
    else character.toUpper :: looseAfter character rest

/-- The loose form of a name: capitals and digits without what does not matter. -/
def loose (name : List Char) : List Char :=
  looseAfter ' ' name

/-- How many characters of a name the table replaces after the given end of the name. -/
def replaced? (character : Char) : Option Nat :=
  if 'a' ≤ character && character ≤ 'z' then some (character.toNat - 'a'.toNat)
  else if 0xc0 ≤ character.toNat then some (character.toNat - 0xc0 + 26)
  else none

/-- A place in the table: the name read so far, last character first, and whether the sought name
has been passed. -/
structure Search where
  current : List Char := []
  isFound : Bool := false

/-- The search after one more character of the table. -/
def Search.step (sought : List Char) (search : Search) (character : Char) : Search :=
  if character = '\n' then search
  else
    match replaced? character with
    | none => { search with current := character :: search.current }
    | some count =>
      { current := search.current.drop count
        isFound := search.isFound || search.current == sought }

/-- Whether a loose name is in the table. -/
def isListed (name : List Char) : Bool :=
  (characterNameTable.foldl (Search.step name.reverse) {}).isFound

/-- Characters whose name ends in their code point: the loose form of what precedes it, and the
code points. -/
def numberedNames : List (String × List (Nat × Nat)) := [
    ("CJKUNIFIEDIDEOGRAPH", [
      (0x3400, 0x4dbf), (0x4e00, 0x9fff), (0x20000, 0x2a6df), (0x2a700, 0x2b81d),
      (0x2b820, 0x2cead), (0x2ceb0, 0x2ebe0), (0x2ebf0, 0x2ee5d), (0x30000, 0x3134a),
      (0x31350, 0x33479)]),
    ("CJKCOMPATIBILITYIDEOGRAPH", [(0xf900, 0xfa6d), (0xfa70, 0xfad9), (0x2f800, 0x2fa1d)]),
    ("EGYPTIANHIEROGLYPH", [(0x13460, 0x143fa)]),
    ("KHITANSMALLSCRIPTCHARACTER", [(0x18b00, 0x18cd5), (0x18cff, 0x18cff)]),
    ("NUSHUCHARACTER", [(0x1b170, 0x1b2fb)])]

/-- What follows a given beginning. -/
def after? (start : String) (text : List Char) : Option (List Char) :=
  if start.toList.isPrefixOf text then some (text.drop start.length) else none

/-- The number that capital hexadecimal digits spell. -/
def codeOf? (digits : List Char) : Option Nat :=
  digits.foldl (fun code? digit => do
    let code ← code?
    if digit.isDigit then some (code * 16 + (digit.toNat - '0'.toNat))
    else if 'A' ≤ digit && digit ≤ 'F' then some (code * 16 + (digit.toNat - 'A'.toNat + 10))
    else none) (some 0)

/-- Whether a loose name ends in the code point of its character. -/
def isNumbered (name : List Char) : Bool :=
  numberedNames.any fun (start, ranges) =>
    match after? start name with
    | none => false
    | some digits =>
      digits.length ≤ 5 && (codeOf? digits).any fun code =>
        ranges.any fun range => range.1 ≤ code && code ≤ range.2

/-- The sounds that a syllable starts with. -/
def initialSounds : List String := [
    "G", "GG", "N", "D", "DD", "R", "M", "B", "BB", "S", "SS", "", "J", "JJ", "C", "K", "T", "P",
    "H"]

/-- The vowels of a syllable. -/
def vowels : List String := [
    "A", "AE", "YA", "YAE", "EO", "E", "YEO", "YE", "O", "WA", "WAE", "OE", "YO", "U", "WEO", "WE",
    "WI", "YU", "EU", "YI", "I"]

/-- The sounds that a syllable ends with. -/
def finalSounds : List String := [
    "", "G", "GG", "GS", "N", "NJ", "NH", "D", "L", "LG", "LM", "LB", "LS", "LT", "LP", "LH", "M",
    "B", "BS", "S", "SS", "NG", "J", "C", "K", "T", "P", "H"]

/-- Whether a loose name spells a Korean syllable. -/
def isSyllable (name : List Char) : Bool :=
  (after? "HANGULSYLLABLE" name).any fun sounds =>
    initialSounds.any fun initial =>
      (after? initial sounds).any fun later =>
        vowels.any fun vowel =>
          (after? vowel later).any fun final => finalSounds.contains (String.ofList final)

end CharacterName

/-- Whether a text is the name of a character. -/
def isCharacterName (name : List Char) : Bool :=
  let sought := CharacterName.loose name
  CharacterName.isListed sought || CharacterName.isNumbered sought ||
    CharacterName.isSyllable sought

end ServiceStubs.Text
