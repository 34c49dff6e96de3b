import ServiceStubs.Proofs.Code.LongLiteral
import ServiceStubs.Value

/-!
# Literals that are written for texts

The literal of a text is complete: its first quote is closed by its last character and by nothing
before. It shows only printable characters, so it stays on its line, and once its escapes are
resolved it stands for the text. Two texts cannot share such a literal.

The strict reader takes no escapes but those that are written. What it reads means the same by the
rules of the language, so that a literal is read back is shown for the strict reader only.
-/

namespace ServiceStubs.Code

/-- The characters that end a line somewhere. -/
def lineBreaks : List Char :=
  ['\n', '\r'] ++ [0x0b, 0x0c, 0x1c, 0x1d, 0x1e, 0x85, 0x2028, 0x2029].map Char.ofNat

/-- One complete literal on a line, which stands for a text. -/
structure IsLiteralOf (text code : List Char) : Prop where
  /-- One quote opens and closes. Between, it is always escaped, and in the end it is not. -/
  closed : ∃ quote content, isQuote quote = true ∧ code = quote :: content ++ [quote] ∧
    (∀ before after, content = before ++ quote :: after →
      before.foldl escapesNext false = true) ∧
    content.foldl escapesNext false = false
  printable : ∀ character ∈ code, Text.isPrintable character = true
  oneLine : ∀ character ∈ code, character ∉ lineBreaks
  /-- The text is found by a reader that takes no escapes but those that are written. -/
  written : Text.Quoted.read? code = some (text, [])
  /-- The text is found by the rules of the language, whichever characters have names. -/
  meaning : ∀ named, readText? named code = some (text, [])

section StrictLiterals

variable {quote : Char} {rest : List Char}

open Literal
open Text.Quoted (readFrom)

/-- The two marks. -/
theorem isQuote_iff {character : Char} :
    isQuote character = true ↔ character = '\'' ∨ character = '"' := by
  rw [isQuote, Bool.or_eq_true, beq_iff_eq, beq_iff_eq, or_comm]

/-- What has a value is a hexadecimal digit. -/
theorem isHexadecimal_of_digitValue? {character : Char} {digit : Nat}
    (value : Text.Quoted.digitValue? character = some digit) : isHexadecimal character = true := by
  rw [Text.Quoted.digitValue?] at value
  by_cases decimal : '0' ≤ character ∧ character ≤ '9'
  · have isDigit : character.isDigit = true := by
      rw [Char.isDigit, Bool.and_eq_true, decide_eq_true_iff, decide_eq_true_iff]
      exact decimal
    simp [isHexadecimal, isDigit]
  · rw [if_neg decimal] at value
    by_cases small : 'a' ≤ character ∧ character ≤ 'f'
    · simp [isHexadecimal, small]
    · rw [if_neg small] at value
      by_cases capital : 'A' ≤ character ∧ character ≤ 'F'
      · simp [isHexadecimal, capital]
      · rw [if_neg capital] at value
        cases value

/-- No hexadecimal digit closes a literal, escapes anything or ends a line. -/
theorem ordinary_of_isHexadecimal {character : Char} (isMark : isQuote quote = true)
    (digit : isHexadecimal character = true) :
    character ≠ '\\' ∧ character ≠ quote ∧ ¬(character = '\n' ∨ character = '\r') := by
  refine ⟨?_, ?_, ?_⟩
  · rintro rfl
    exact absurd digit (by decide)
  · rintro rfl
    rcases isQuote_iff.mp isMark with rfl | rfl <;> exact absurd digit (by decide)
  · rintro (rfl | rfl) <;> exact absurd digit (by decide)

/-- Hexadecimal digits may stand between any marks. -/
theorem enclosed_digits {digits content : List Char} (isMark : isQuote quote = true)
    (hexadecimal : ∀ digit ∈ digits, isHexadecimal digit = true)
    (others : Enclosed quote content) : Enclosed quote (digits ++ content) := by
  induction digits with
  | nil => exact others
  | cons digit digits inductionHypothesis =>
    rw [List.forall_mem_cons] at hexadecimal
    obtain ⟨notBackslash, notQuote, notBreak⟩ := ordinary_of_isHexadecimal isMark hexadecimal.1
    exact (inductionHypothesis hexadecimal.2).ordinary digit notBackslash notQuote notBreak

/-- An escape by code point means the character with that code point. -/
theorem escapeMeaning?_code {named : List Char → Option Char} {selector character : Char}
    {width : Nat} {digits content : List Char}
    (known : (selector, width) ∈ Text.Quoted.codeEscapes) (length : digits.length = width)
    (hexadecimal : ∀ digit ∈ digits, isHexadecimal digit = true)
    (selects : characterOf? digits = some character) :
    escapeMeaning? named (selector :: (digits ++ content)) = some ([character], width + 1) := by
  have kinds : ∀ entry ∈ Text.Quoted.codeEscapes, simpleEscapes.lookup entry.1 = none ∧
      Text.Quoted.codeEscapes.lookup entry.1 = some entry.2 := by decide
  obtain ⟨notSimple, found⟩ := kinds (selector, width) known
  have taken : escapeDigits? width (digits ++ content) = some digits := by
    rw [escapeDigits?, List.take_left' length,
      if_pos ⟨length, List.all_eq_true.mpr hexadecimal⟩]
  rw [escapeMeaning?, notSimple, found]
  dsimp only
  rw [taken, Option.bind_some, selects, Option.map_some]

/-- What stands between single marks and means a text, whichever characters have names. -/
structure Spells (quote : Char) (content text : List Char) : Prop where
  enclosed : Enclosed quote content
  noReturn : '\r' ∉ content
  resolved : ∀ named, unescape named 0 content = some text

namespace Spells

variable {content text : List Char} {character selector : Char}

/-- Nothing spells nothing. -/
theorem nil : Spells quote [] [] :=
  ⟨.nil, by simp, fun _ => rfl⟩

/-- A character that needs no escape spells itself. -/
theorem ordinary (others : Spells quote content text) (notBackslash : character ≠ '\\')
    (notQuote : character ≠ quote) (notBreak : ¬(character = '\n' ∨ character = '\r')) :
    Spells quote (character :: content) (character :: text) where
  enclosed := others.enclosed.ordinary character notBackslash notQuote notBreak
  noReturn := by
    rw [List.mem_cons, not_or]
    exact ⟨fun same => notBreak (.inr same.symm), others.noReturn⟩
  resolved named := by
    rw [unescape, if_neg notBackslash, others.resolved, Option.map_some]

/-- An escape of one character spells what it means. -/
theorem simple (others : Spells quote content text)
    (known : simpleEscapes.lookup selector = some [character]) :
    Spells quote ('\\' :: selector :: content) (character :: text) where
  enclosed := others.enclosed.escaped selector
  noReturn := by
    have apart : '\r' ≠ selector := by
      rintro rfl
      have unknown : simpleEscapes.lookup '\r' = none := by decide
      rw [unknown] at known
      cases known
    simp only [List.mem_cons, not_or]
    exact ⟨by decide, apart, others.noReturn⟩
  resolved named := by
    rw [unescape_backslash (escapeMeaning?_simple known content), unescape, others.resolved]
    rfl

/-- An escape by code point spells the character with that code point. -/
theorem code (others : Spells quote content text) (isMark : isQuote quote = true) {width : Nat}
    {digits : List Char} (known : (selector, width) ∈ Text.Quoted.codeEscapes)
    (length : digits.length = width)
    (hexadecimal : ∀ digit ∈ digits, isHexadecimal digit = true)
    (selects : characterOf? digits = some character) :
    Spells quote ('\\' :: selector :: (digits ++ content)) (character :: text) where
  enclosed := (enclosed_digits isMark hexadecimal others.enclosed).escaped selector
  noReturn := by
    have noSelector : ∀ entry ∈ Text.Quoted.codeEscapes, '\r' ≠ entry.1 := by decide
    simp only [List.mem_cons, List.mem_append, not_or]
    refine ⟨by decide, noSelector _ known, ?_, others.noReturn⟩
    exact fun member => absurd (hexadecimal '\r' member) (by decide)
  resolved named := by
    rw [unescape_backslash (escapeMeaning?_code known length hexadecimal selects), unescape_skip,
      List.drop_succ_cons, List.drop_left' length, others.resolved]
    rfl

end Spells

/-- What was read with a character before it. -/
theorem before_eq_some {character : Char} {text : List Char}
    {read : Option (List Char × List Char)} :
    Text.Quoted.before character read = some (text, rest) ↔
      ∃ others, read = some (others, rest) ∧ text = character :: others := by
  rw [Text.Quoted.before, Option.map_eq_some_iff]
  constructor
  · rintro ⟨⟨others, behind⟩, rfl, same⟩
    obtain ⟨rfl, rfl⟩ := Prod.mk.inj same
    exact ⟨others, rfl, rfl⟩
  · rintro ⟨others, rfl, rfl⟩
    exact ⟨(others, rest), rfl, rfl⟩

/-- The digits that the strict reader takes for a code point. -/
theorem readFrom_digits_eq_some {missing number : Nat} (positive : 0 < missing)
    {code text : List Char}
    (read : readFrom quote (.digits missing number) code = some (text, rest)) :
    ∃ digits behind others, code = digits ++ behind ∧ digits.length = missing ∧
      (∀ digit ∈ digits, isHexadecimal digit = true) ∧
      (digits.foldl (fun number digit => 16 * number + (Text.Quoted.digitValue? digit).getD 0)
        number).isValidChar ∧
      text = Char.ofNat (digits.foldl
        (fun number digit => 16 * number + (Text.Quoted.digitValue? digit).getD 0) number) ::
          others ∧
      readFrom quote .text behind = some (others, rest) := by
  induction code generalizing missing number with
  | nil => cases read
  | cons first code inductionHypothesis =>
    rw [readFrom] at read
    cases value : Text.Quoted.digitValue? first with
    | none =>
      rw [value] at read
      cases read
    | some digit =>
      rw [value] at read
      dsimp only at read
      have isDigit := isHexadecimal_of_digitValue? value
      by_cases last : missing ≤ 1
      · rw [if_pos last] at read
        by_cases valid : (16 * number + digit).isValidChar
        · rw [if_pos valid] at read
          obtain ⟨others, beyond, rfl⟩ := before_eq_some.mp read
          refine ⟨[first], code, others, rfl, ?_, by simpa using isDigit, ?_, ?_, beyond⟩
          · rw [List.length_singleton]
            omega
          · simpa [value] using valid
          · simp [value]
        · rw [if_neg valid] at read
          cases read
      · rw [if_neg last] at read
        obtain ⟨digits, behind, others, rfl, length, hexadecimal, valid, rfl, beyond⟩ :=
          inductionHypothesis (by omega) read
        refine ⟨first :: digits, behind, others, rfl, ?_, ?_, ?_, ?_, beyond⟩
        · rw [List.length_cons, length]
          omega
        · exact List.forall_mem_cons.mpr ⟨isDigit, hexadecimal⟩
        · simpa [value] using valid
        · simp [value]

/-- The escapes that the strict reader takes: some of those of one character, and those by code
point. -/
theorem readFrom_selector_eq_some {code text : List Char}
    (read : readFrom quote .selector code = some (text, rest)) :
    (∃ selector character behind others, code = selector :: behind ∧ text = character :: others ∧
      simpleEscapes.lookup selector = some [character] ∧
      readFrom quote .text behind = some (others, rest)) ∨
    ∃ selector width behind, code = selector :: behind ∧
      (selector, width) ∈ Text.Quoted.codeEscapes ∧
      readFrom quote (.digits width 0) behind = some (text, rest) := by
  cases code with
  | nil => cases read
  | cons selector behind =>
    have simple {character : Char} (known : simpleEscapes.lookup selector = some [character])
        (means : Text.Quoted.before character (readFrom quote .text behind) =
          some (text, rest)) :
        ∃ selector' character behind' others, selector :: behind = selector' :: behind' ∧
          text = character :: others ∧ simpleEscapes.lookup selector' = some [character] ∧
          readFrom quote .text behind' = some (others, rest) := by
      obtain ⟨others, beyond, rfl⟩ := before_eq_some.mp means
      exact ⟨selector, character, behind, others, rfl, rfl, known, beyond⟩
    unfold readFrom at read
    split at read
    · exact .inl (simple (by decide) read)
    · exact .inl (simple (by decide) read)
    · exact .inl (simple (by decide) read)
    · exact .inl (simple (by decide) read)
    · exact .inl (simple (by decide) read)
    · exact .inl (simple (by decide) read)
    · exact .inr ⟨'x', 2, behind, rfl, by decide, read⟩
    · exact .inr ⟨'u', 4, behind, rfl, by decide, read⟩
    · exact .inr ⟨'U', 8, behind, rfl, by decide, read⟩
    · cases read

/-- The strict reader follows the rules of the language: what it reads up to the closing quote
spells the text that it gives. -/
theorem spells_of_readFrom (isMark : isQuote quote = true) {code text : List Char}
    (read : readFrom quote .text code = some (text, rest)) :
    ∃ content, code = content ++ quote :: rest ∧ Spells quote content text := by
  induction size : code.length using Nat.strongRecOn generalizing code text with
  | ind size inductionHypothesis =>
    cases code with
    | nil => cases read
    | cons first code =>
      rw [readFrom] at read
      by_cases closes : first = quote
      · rw [if_pos closes, Option.some.injEq, Prod.mk.injEq] at read
        obtain ⟨rfl, rfl⟩ := read
        exact ⟨[], by rw [closes, List.nil_append], .nil⟩
      · rw [if_neg closes] at read
        by_cases backslash : first = '\\'
        · rw [if_pos backslash] at read
          rw [backslash]
          rcases readFrom_selector_eq_some read with
            ⟨selector, character, behind, others, rfl, rfl, known, beyond⟩ |
            ⟨selector, width, behind, rfl, known, taken⟩
          · obtain ⟨content, rfl, spells⟩ := inductionHypothesis behind.length
              (by simp only [List.length_cons] at size; omega) beyond rfl
            exact ⟨_, rfl, spells.simple known⟩
          · have positive : ∀ entry ∈ Text.Quoted.codeEscapes, 0 < entry.2 := by decide
            obtain ⟨digits, behind, others, rfl, length, hexadecimal, valid, rfl, beyond⟩ :=
              readFrom_digits_eq_some (positive _ known) taken
            obtain ⟨content, rfl, spells⟩ := inductionHypothesis behind.length
              (by simp only [List.length_cons, List.length_append] at size; omega) beyond rfl
            refine ⟨'\\' :: selector :: (digits ++ content), by simp, ?_⟩
            exact spells.code isMark known length hexadecimal (if_pos valid)
        · rw [if_neg backslash] at read
          by_cases breaks : first = '\n' ∨ first = '\r'
          · rw [if_pos breaks] at read
            cases read
          · rw [if_neg breaks] at read
            obtain ⟨others, beyond, rfl⟩ := before_eq_some.mp read
            obtain ⟨content, rfl, spells⟩ := inductionHypothesis code.length
              (by simp only [List.length_cons] at size; omega) beyond rfl
            exact ⟨first :: content, rfl, spells.ordinary backslash closes breaks⟩

/-- What spells a text is read as the text between its marks. Code cannot hold the character with
the number zero. -/
theorem Spells.readText?_eq {content text : List Char} (spells : Spells quote content text)
    {named : List Char → Option Char} (isMark : isQuote quote = true)
    (noZero : Char.ofNat 0 ∉ content) (separate : text ≠ [] ∨ rest.head? ≠ some quote) :
    readText? named (quote :: (content ++ quote :: rest)) = some (text, rest) := by
  have notBackslash : quote ≠ '\\' := by
    rintro rfl
    exact absurd isMark (by decide)
  have written : content ≠ [] ∨ rest.head? ≠ some quote := by
    refine separate.imp_left ?_
    rintro nonempty rfl
    exact nonempty (Option.some.inj (spells.resolved named)).symm
  rw [readText?_eq_some isMark]
  exact ⟨_, spells.enclosed.read?_eq notBackslash spells.noReturn written, noZero,
    spells.resolved named⟩

/-- What is written for a text spells it. -/
theorem spells_flatMap_escape (isMark : isQuote quote = true) (text : List Char) :
    Spells quote (text.flatMap (Text.Quoted.escape quote)) text := by
  have read := Text.Quoted.readFrom_text (isQuote_iff.mp isMark) text []
  obtain ⟨content, same, spells⟩ := spells_of_readFrom isMark read
  rwa [List.append_cancel_right same]

/-- The literal of a text stands for the text, unless another quote follows it. -/
theorem readText?_encode {named : List Char → Option Char} (text : List Char)
    (apart : rest.head? ≠ some '\'') :
    readText? named (Text.Quoted.encode text ++ rest) = some (text, rest) := by
  have isMark := isQuote_iff.mpr (Text.Quoted.isQuote_defaultQuote text)
  have noZero : Char.ofNat 0 ∉
      text.flatMap (Text.Quoted.escape (Text.Quoted.defaultQuote text)) := by
    intro member
    have written : Char.ofNat 0 ∈ Text.Quoted.encode text := by
      simp [Text.Quoted.encode, Text.Quoted.encodeWith, member]
    exact absurd (Text.Quoted.isPrintable_of_mem_encode written) (by decide)
  have spelled : Text.Quoted.encode text ++ rest = Text.Quoted.defaultQuote text ::
      (text.flatMap (Text.Quoted.escape (Text.Quoted.defaultQuote text)) ++
        Text.Quoted.defaultQuote text :: rest) := by
    simp [Text.Quoted.encode, Text.Quoted.encodeWith]
  rw [spelled]
  refine (spells_flatMap_escape isMark text).readText?_eq isMark noZero ?_
  -- Only the literal of the empty text could run into a quote behind it.
  cases text with
  | nil => exact .inr apart
  | cons first others => exact .inl (List.cons_ne_nil first others)

end StrictLiterals

section Enclosed

variable {quote : Char} {content : List Char}

/-- What is escaped itself escapes nothing. -/
theorem escapesNext_true (character : Char) : escapesNext true character = false := by
  simp [escapesNext]

/-- What is enclosed leaves the closing quote unescaped. -/
theorem Enclosed.foldl_escapesNext (enclosed : Enclosed quote content) :
    content.foldl escapesNext false = false := by
  induction enclosed with
  | nil => rfl
  | pair others inductionHypothesis => exact inductionHypothesis
  | escaped character others inductionHypothesis =>
    rw [List.foldl_cons, List.foldl_cons]
    exact (escapesNext_true character).symm ▸ inductionHypothesis
  | ordinary character notBackslash notQuote notBreak others inductionHypothesis =>
    rw [List.foldl_cons, escapesNext_of_ne notBackslash]
    exact inductionHypothesis

/-- A quote inside what is enclosed is escaped. -/
theorem Enclosed.escapes_quote (enclosed : Enclosed quote content) (isMark : isQuote quote = true)
    {before after : List Char} (split : content = before ++ quote :: after) :
    before.foldl escapesNext false = true := by
  have notBackslash : '\\' ≠ quote := by
    rintro rfl
    exact absurd isMark (by decide)
  have notFeed : '\n' ≠ quote := by
    rintro rfl
    exact absurd isMark (by decide)
  induction enclosed generalizing before with
  | nil => simp at split
  | pair others inductionHypothesis =>
    match before with
    | [] => exact absurd (List.cons.inj split).1 notBackslash
    | [first] =>
      obtain ⟨rfl, _⟩ := List.cons.inj split
      rfl
    | [_, _] =>
      simp only [List.cons_append, List.nil_append, List.cons.injEq] at split
      exact absurd split.2.2.1 notFeed
    | _ :: _ :: _ :: before =>
      simp only [List.cons_append, List.cons.injEq] at split
      obtain ⟨rfl, rfl, rfl, rest⟩ := split
      change before.foldl escapesNext false = true
      exact inductionHypothesis rest
  | escaped character others inductionHypothesis =>
    match before with
    | [] => exact absurd (List.cons.inj split).1 notBackslash
    | [first] =>
      obtain ⟨rfl, _⟩ := List.cons.inj split
      rfl
    | _ :: _ :: before =>
      simp only [List.cons_append, List.cons.injEq] at split
      obtain ⟨rfl, rfl, rest⟩ := split
      rw [List.foldl_cons, List.foldl_cons]
      exact (escapesNext_true character).symm ▸ inductionHypothesis rest
  | ordinary character notEscape notQuote notBreak others inductionHypothesis =>
    cases before with
    | nil => exact absurd (List.cons.inj split).1 notQuote
    | cons first before =>
      obtain ⟨rfl, rest⟩ := List.cons.inj split
      rw [List.foldl_cons, escapesNext_of_ne notEscape]
      exact inductionHypothesis rest

end Enclosed

/-- A literal stands for one text only. -/
theorem IsLiteralOf.text_eq {left right code : List Char} (first : IsLiteralOf left code)
    (second : IsLiteralOf right code) : left = right := by
  have same := first.written.symm.trans second.written
  rw [Option.some.injEq, Prod.mk.injEq] at same
  exact same.1

/-- No character that ends a line is printable. -/
theorem isPrintable_lineBreaks :
    lineBreaks.all (fun character => !Text.isPrintable character) = true := by
  decide +kernel

/-- The literal that is written for a text is complete and stands for the text. -/
theorem isLiteralOf_encode (text : List Char) : IsLiteralOf text (Text.Quoted.encode text) := by
  have isMark := isQuote_iff.mpr (Text.Quoted.isQuote_defaultQuote text)
  have enclosed := (spells_flatMap_escape isMark text).enclosed
  have printable : ∀ character ∈ Text.Quoted.encode text, Text.isPrintable character = true :=
    fun _ member => Text.Quoted.isPrintable_of_mem_encode member
  constructor
  case closed =>
    exact ⟨_, _, isMark, rfl, fun _ _ => enclosed.escapes_quote isMark, enclosed.foldl_escapesNext⟩
  case printable => exact printable
  case oneLine =>
    intro character member breaks
    have hidden := List.all_eq_true.mp isPrintable_lineBreaks character breaks
    rw [printable character member] at hidden
    cases hidden
  case written =>
    rw [← List.append_nil (Text.Quoted.encode text)]
    exact Text.Quoted.read?_encode text []
  case meaning =>
    intro named
    rw [← List.append_nil (Text.Quoted.encode text)]
    exact readText?_encode text (by simp)

/-- The literal of a text value is complete and stands for the text. No other text has the same
literal, and a missing value has another one. -/
theorem literal_of_text (text : String) :
    IsLiteralOf text.toList (Value.text text).literal.toList ∧
    (∀ other, (Value.text other).literal = (Value.text text).literal → other = text) ∧
    (Value.text text).literal ≠ Value.null.literal := by
  have isLiteral : ∀ text : String, IsLiteralOf text.toList (Value.text text).literal.toList := by
    intro text
    rw [Value.literal, Text.Quoted.literal, String.toList_ofList]
    exact isLiteralOf_encode text.toList
  refine ⟨isLiteral text, ?_, ?_⟩
  · intro other same
    have otherLiteral := isLiteral other
    rw [same] at otherLiteral
    exact String.toList_injective (otherLiteral.text_eq (isLiteral text))
  · rw [Value.literal, Value.literal]
    exact Text.Quoted.literal_ne_none text

end ServiceStubs.Code
