import Mathlib.Algebra.Group.Nat.Defs
import ServiceStubs.Text.Quoted

/-!
# Reading quoted literals

A reader for literals goes through them character by character. It knows the escapes that literals
are written with and refuses all others. It gives the text of every literal back, so different
texts have different literals. A literal consists of printable characters, so it stays on one line.
-/

namespace ServiceStubs.Text.Quoted

/-- The value of a hexadecimal digit. -/
def digitValue? (character : Char) : Option Nat :=
  if '0' ≤ character ∧ character ≤ '9' then some (character.toNat - '0'.toNat)
  else if 'a' ≤ character ∧ character ≤ 'f' then some (character.toNat - 'a'.toNat + 10)
  else if 'A' ≤ character ∧ character ≤ 'F' then some (character.toNat - 'A'.toNat + 10)
  else none

/-- What a reader expects next. -/
inductive Expectation where
  /-- A character of the text, an escape, or the closing quote. -/
  | text
  /-- The character that selects an escape, after its backslash. -/
  | selector
  /-- The digits of a code point; `number` is the value of those before. -/
  | digits (missing number : Nat)
  deriving DecidableEq, Repr

/-- A character before what else was read. -/
def before (character : Char) : Option (List Char × List Char) → Option (List Char × List Char) :=
  Option.map fun (text, rest) => (character :: text, rest)

/-- The text up to the closing quote, and the characters after the quote. -/
def readFrom (quote : Char) : Expectation → List Char → Option (List Char × List Char)
  | _, [] => none
  | .text, character :: rest =>
    if character = quote then some ([], rest)
    else if character = '\\' then readFrom quote .selector rest
    else if character = '\n' ∨ character = '\r' then none
    else before character (readFrom quote .text rest)
  | .selector, selector :: rest =>
    match selector with
    | '\\' => before '\\' (readFrom quote .text rest)
    | '\'' => before '\'' (readFrom quote .text rest)
    | '"' => before '"' (readFrom quote .text rest)
    | 'n' => before '\n' (readFrom quote .text rest)
    | 'r' => before '\r' (readFrom quote .text rest)
    | 't' => before '\t' (readFrom quote .text rest)
    | 'x' => readFrom quote (.digits 2 0) rest
    | 'u' => readFrom quote (.digits 4 0) rest
    | 'U' => readFrom quote (.digits 8 0) rest
    | _ => none
  | .digits missing number, character :: rest =>
    match digitValue? character with
    | none => none
    | some digit =>
      let extended := 16 * number + digit
      if missing ≤ 1 then
        if extended.isValidChar then before (Char.ofNat extended) (readFrom quote .text rest)
        else none
      else readFrom quote (.digits (missing - 1) extended) rest

/-- The text of the literal that some code starts with, and the code after it. -/
def read? : List Char → Option (List Char × List Char)
  | [] => none
  | quote :: rest => if quote = '\'' ∨ quote = '"' then readFrom quote .text rest else none

section Digits

/-- A digit is read as the value that it is written for. -/
theorem digitValue?_digitChar : ∀ digit < 16, digitValue? digit.digitChar = some digit := by
  decide

/-- The value of some digits behind a number. -/
def valueFrom (number : Nat) (digits : List Nat) : Nat :=
  digits.foldl (fun value digit => 16 * value + digit) number

/-- The digits of a number in hexadecimal, as values. -/
theorem toDigits_eq_map (number : Nat) :
    ∃ digits : List Nat, Nat.toDigits 16 number = digits.map Nat.digitChar ∧
      (∀ digit ∈ digits, digit < 16) ∧ valueFrom 0 digits = number := by
  induction number using Nat.strongRecOn with
  | ind number inductionHypothesis =>
    by_cases small : number < 16
    · refine ⟨[number], ?_, by simpa using small, by simp [valueFrom]⟩
      simpa using Nat.toDigits_of_lt_base small
    · obtain ⟨digits, spelled, bounded, value⟩ := inductionHypothesis (number / 16) (by omega)
      refine ⟨digits ++ [number % 16], ?_, ?_, ?_⟩
      · rw [Nat.toDigits_of_base_le (by decide) (by omega), spelled]
        simp
      · intro digit member
        rcases List.mem_append.mp member with inner | last
        · exact bounded digit inner
        · rw [List.mem_singleton.mp last]
          omega
      · have split : valueFrom 0 (digits ++ [number % 16]) =
            16 * valueFrom 0 digits + number % 16 := by simp [valueFrom]
        rw [split, value]
        omega

/-- Leading zeros add nothing. -/
theorem valueFrom_replicate_zero (count : Nat) (digits : List Nat) :
    valueFrom 0 (List.replicate count 0 ++ digits) = valueFrom 0 digits := by
  induction count with
  | zero => rfl
  | succ count inductionHypothesis =>
    rw [List.replicate_succ, List.cons_append]
    exact inductionHypothesis

/-- A padded number that fits into its width: as many digits as asked for, with its value. -/
theorem hexadecimal_eq_map {width number : Nat} (positive : 0 < width)
    (fits : number < 16 ^ width) :
    ∃ digits : List Nat, hexadecimal width number = digits.map Nat.digitChar ∧
      (∀ digit ∈ digits, digit < 16) ∧ valueFrom 0 digits = number ∧ digits.length = width := by
  obtain ⟨digits, spelled, bounded, value⟩ := toDigits_eq_map number
  have short := (Nat.length_toDigits_le_iff (by decide : 1 < 16) positive).mpr fits
  rw [spelled, List.length_map] at short
  refine ⟨List.replicate (width - digits.length) 0 ++ digits, ?_, ?_, ?_, ?_⟩
  · simp [hexadecimal, spelled]
  · intro digit member
    rcases List.mem_append.mp member with padding | inner
    · rw [List.eq_of_mem_replicate padding]
      decide
    · exact bounded digit inner
  · rw [valueFrom_replicate_zero, value]
  · simp
    omega

end Digits

section Writing

/-- The characters with an escape of their own, and the character that selects it. -/
def namedEscapes : List (Char × Char) :=
  [('\n', 'n'), ('\r', 'r'), ('\t', 't')]

/-- The characters that select an escape by code point, and how many digits it has. -/
def codeEscapes : List (Char × Nat) :=
  [('x', 2), ('u', 4), ('U', 8)]

/-- The ways to write a character between the given quotes. -/
inductive Written (quote character : Char) : List Char → Prop where
  | marked (special : character = quote ∨ character = '\\') :
      Written quote character ['\\', character]
  | named (selector : Char) (known : (character, selector) ∈ namedEscapes) :
      Written quote character ['\\', selector]
  | plain (notQuote : character ≠ quote) (notBackslash : character ≠ '\\')
      (notBreak : ¬ (character = '\n' ∨ character = '\r'))
      (printable : isPrintable character = true) :
      Written quote character [character]
  | code (selector : Char) (width : Nat) (known : (selector, width) ∈ codeEscapes)
      (fits : character.toNat < 16 ^ width) :
      Written quote character ('\\' :: selector :: hexadecimal width character.toNat)

/-- Every escape is one of these ways. -/
theorem written_escape (quote character : Char) :
    Written quote character (escape quote character) := by
  by_cases special : character = quote ∨ character = '\\'
  · rw [escape, if_pos special]
    exact .marked special
  · rw [escape, if_neg special]
    rw [not_or] at special
    by_cases lineFeed : character = '\n'
    · rw [if_pos lineFeed]
      exact .named 'n' (by simp [namedEscapes, lineFeed])
    · by_cases carriageReturn : character = '\r'
      · rw [if_neg lineFeed, if_pos carriageReturn]
        exact .named 'r' (by simp [namedEscapes, carriageReturn])
      · by_cases tab : character = '\t'
        · rw [if_neg lineFeed, if_neg carriageReturn, if_pos tab]
          exact .named 't' (by simp [namedEscapes, tab])
        · rw [if_neg lineFeed, if_neg carriageReturn, if_neg tab]
          split
          · rename_i printable
            exact .plain special.1 special.2 (by simp [lineFeed, carriageReturn]) printable
          · split
            · rename_i fits
              exact .code 'x' 2 (by simp [codeEscapes]) (by simpa using fits)
            · split
              · rename_i fits
                exact .code 'u' 4 (by simp [codeEscapes]) (by simpa using fits)
              · exact .code 'U' 8 (by simp [codeEscapes]) character.val.toNat_lt

end Writing

section Reading

variable {quote : Char}

/-- The digits of a code point are read as the character with that code point. -/
theorem readFrom_digits {digits : List Nat} (nonempty : digits ≠ [])
    (bounded : ∀ digit ∈ digits, digit < 16) {number : Nat}
    (valid : (valueFrom number digits).isValidChar) (rest : List Char) :
    readFrom quote (.digits digits.length number) (digits.map Nat.digitChar ++ rest) =
      before (Char.ofNat (valueFrom number digits)) (readFrom quote .text rest) := by
  induction digits generalizing number with
  | nil => exact absurd rfl nonempty
  | cons digit others inductionHypothesis =>
    rw [List.forall_mem_cons] at bounded
    rw [List.map_cons, List.cons_append, readFrom, digitValue?_digitChar digit bounded.1]
    dsimp only
    cases others with
    | nil =>
      have isCharacter : (16 * number + digit).isValidChar := valid
      rw [if_pos (by simp), if_pos isCharacter]
      rfl
    | cons next others =>
      rw [if_neg (by simp)]
      exact inductionHypothesis (by simp) bounded.2 valid

/-- A padded code point is read as its character. -/
theorem readFrom_hexadecimal {width : Nat} (positive : 0 < width) {character : Char}
    (fits : character.toNat < 16 ^ width) (rest : List Char) :
    readFrom quote (.digits width 0) (hexadecimal width character.toNat ++ rest) =
      before character (readFrom quote .text rest) := by
  obtain ⟨digits, spelled, bounded, value, length⟩ := hexadecimal_eq_map positive fits
  have nonempty : digits ≠ [] := by
    rintro rfl
    simp at length
    omega
  have valid : (valueFrom 0 digits).isValidChar := by
    rw [value]
    exact character.valid
  rw [spelled, ← length, readFrom_digits nonempty bounded valid, value, Char.ofNat_toNat]

/-- What is written for one character is read as that character. -/
theorem readFrom_escape (isQuote : quote = '\'' ∨ quote = '"') (character : Char)
    (rest : List Char) :
    readFrom quote .text (escape quote character ++ rest) =
      before character (readFrom quote .text rest) := by
  have quoteApart : '\\' ≠ quote := by
    rcases isQuote with rfl | rfl <;> decide
  have ways := written_escape quote character
  generalize escape quote character = spelling at ways ⊢
  cases ways with
  | marked special =>
    rw [List.cons_append, readFrom, if_neg quoteApart, if_pos rfl, List.singleton_append]
    rcases special with rfl | rfl
    · rcases isQuote with rfl | rfl <;> rfl
    · rfl
  | named selector known =>
    rw [List.cons_append, readFrom, if_neg quoteApart, if_pos rfl]
    simp only [namedEscapes, List.mem_cons, Prod.mk.injEq, List.not_mem_nil, or_false] at known
    rcases known with ⟨rfl, rfl⟩ | ⟨rfl, rfl⟩ | ⟨rfl, rfl⟩ <;> rfl
  | plain notQuote notBackslash notBreak =>
    rw [List.singleton_append, readFrom, if_neg notQuote, if_neg notBackslash, if_neg notBreak]
  | code selector width known fits =>
    rw [List.cons_append, readFrom, if_neg quoteApart, if_pos rfl]
    simp only [codeEscapes, List.mem_cons, Prod.mk.injEq, List.not_mem_nil, or_false] at known
    rcases known with ⟨rfl, rfl⟩ | ⟨rfl, rfl⟩ | ⟨rfl, rfl⟩
    · exact readFrom_hexadecimal (by decide) fits rest
    · exact readFrom_hexadecimal (by decide) fits rest
    · exact readFrom_hexadecimal (by decide) fits rest

/-- A whole text is read up to its closing quote. -/
theorem readFrom_text (isQuote : quote = '\'' ∨ quote = '"') (text rest : List Char) :
    readFrom quote .text (text.flatMap (escape quote) ++ quote :: rest) = some (text, rest) := by
  induction text with
  | nil =>
    rw [List.flatMap_nil, List.nil_append, readFrom, if_pos rfl]
  | cons character text inductionHypothesis =>
    rw [List.flatMap_cons, List.append_assoc, readFrom_escape isQuote, inductionHypothesis]
    rfl

/-- A literal stands between single or between double quotes. -/
theorem isQuote_defaultQuote (text : List Char) :
    defaultQuote text = '\'' ∨ defaultQuote text = '"' := by
  unfold defaultQuote
  split
  · exact .inr rfl
  · exact .inl rfl

/-- Reading the literal of a text gives the text, and leaves what follows the literal. -/
theorem read?_encode (text rest : List Char) : read? (encode text ++ rest) = some (text, rest) := by
  have isQuote := isQuote_defaultQuote text
  have spelled : encode text ++ rest = defaultQuote text ::
      (text.flatMap (escape (defaultQuote text)) ++ defaultQuote text :: rest) := by
    simp [encode, encodeWith]
  rw [spelled, read?, if_pos isQuote, readFrom_text isQuote]

/-- Different texts have different literals. -/
theorem literal_injective {left right : String} (equal : literal left = literal right) :
    left = right := by
  have sameLiteral : encode left.toList = encode right.toList := String.ofList_injective equal
  have readLeft := read?_encode left.toList []
  rw [sameLiteral, read?_encode] at readLeft
  have sameText : right.toList = left.toList := by simpa using readLeft
  exact String.toList_injective sameText.symm

/-- The literal of a text starts with a quote, so it is not the word for nothing. -/
theorem literal_ne_none (text : String) : literal text ≠ "None" := by
  intro equal
  have spelled : encode text.toList = "None".toList := by
    rw [← equal, literal, String.toList_ofList]
  have readText := read?_encode text.toList []
  have unread : read? "None".toList = none := by decide
  rw [List.append_nil, spelled, unread] at readText
  cases readText

end Reading

section Printing

/-- Digits are printable. -/
theorem isPrintable_of_mem_hexadecimal {width number : Nat} {character : Char}
    (member : character ∈ hexadecimal width number) : isPrintable character = true := by
  have digitsPrintable : ∀ digit < 16, isPrintable digit.digitChar = true := by
    decide
  obtain ⟨digits, spelled, bounded, _⟩ := toDigits_eq_map number
  rcases List.mem_append.mp member with padding | digit
  · rw [List.eq_of_mem_replicate padding]
    decide
  · rw [spelled, List.mem_map] at digit
    obtain ⟨value, found, rfl⟩ := digit
    exact digitsPrintable value (bounded value found)

/-- What is written for a character is printable, whether the character is or not. -/
theorem isPrintable_of_mem_escape {quote character written : Char}
    (quotePrintable : isPrintable quote = true) (member : written ∈ escape quote character) :
    isPrintable written = true := by
  have ways := written_escape quote character
  generalize escape quote character = spelling at ways member
  have backslashPrintable : isPrintable '\\' = true := by decide
  cases ways with
  | marked special =>
    rw [List.mem_cons, List.mem_singleton] at member
    rcases member with rfl | rfl
    · exact backslashPrintable
    · rcases special with rfl | rfl
      · exact quotePrintable
      · exact backslashPrintable
  | named selector known =>
    have selectorsPrintable : ∀ known ∈ namedEscapes, isPrintable known.2 = true := by decide
    rw [List.mem_cons, List.mem_singleton] at member
    rcases member with rfl | rfl
    · exact backslashPrintable
    · exact selectorsPrintable _ known
  | plain notQuote notBackslash notBreak printable =>
    rw [List.mem_singleton.mp member]
    exact printable
  | code selector width known fits =>
    have selectorsPrintable : ∀ known ∈ codeEscapes, isPrintable known.1 = true := by decide
    rw [List.mem_cons, List.mem_cons] at member
    rcases member with rfl | rfl | digit
    · exact backslashPrintable
    · exact selectorsPrintable _ known
    · exact isPrintable_of_mem_hexadecimal digit

/-- A literal consists of printable characters. -/
theorem isPrintable_of_mem_encode {text : List Char} {character : Char}
    (member : character ∈ encode text) : isPrintable character = true := by
  have quotePrintable : isPrintable (defaultQuote text) = true := by
    rcases isQuote_defaultQuote text with single | double
    · rw [single]
      decide
    · rw [double]
      decide
  rw [encode, encodeWith, List.mem_append, List.mem_cons, List.mem_singleton] at member
  rcases member with (rfl | inner) | rfl
  · exact quotePrintable
  · obtain ⟨original, _, written⟩ := List.mem_flatMap.mp inner
    exact isPrintable_of_mem_escape quotePrintable written
  · exact quotePrintable

/-- A literal stays on one line. -/
theorem lineFeed_not_mem_literal (text : String) : '\n' ∉ (literal text).toList := by
  intro member
  rw [literal, String.toList_ofList] at member
  exact absurd (isPrintable_of_mem_encode member) (by decide)

end Printing

end ServiceStubs.Text.Quoted
