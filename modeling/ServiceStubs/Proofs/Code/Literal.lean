import Mathlib.Data.List.Basic
import Mathlib.Data.List.Induction
import ServiceStubs.Code.Literal
import ServiceStubs.Proofs.Text.Newline
import ServiceStubs.Proofs.Text.Quoted

/-!
# What string literals mean

The text of a literal is what stands between its quotes once the escapes are resolved. A backslash
before a character that selects no escape stays. Resolving an escape makes the text shorter, so a
text stands for itself between double quotes exactly if it breaks nothing off and escapes nothing.
Which character has which name is left open.
-/

namespace ServiceStubs.Code

/-- The escapes of one character, and what they mean. A line feed behind a backslash means
nothing. -/
def simpleEscapes : List (Char × List Char) :=
  [('\n', []), ('\\', ['\\']), ('\'', ['\'']), ('"', ['"']), ('a', [Char.ofNat 7]),
    ('b', [Char.ofNat 8]), ('t', ['\t']), ('n', ['\n']), ('v', [Char.ofNat 11]),
    ('f', [Char.ofNat 12]), ('r', ['\r'])]

/-- Octal digits. -/
def isOctal (character : Char) : Bool :=
  '0' ≤ character && character ≤ '7'

/-- Whether a character behind a backslash makes an escape. -/
def selectsEscape (character : Char) : Bool :=
  (simpleEscapes.lookup character).isSome || (Text.Quoted.codeEscapes.lookup character).isSome ||
    character == 'N' || isOctal character

/-- The number that some digits spell in a base. -/
def numberOf (base : Nat) (digits : List Char) : Nat :=
  digits.foldl (fun number digit => base * number + (Text.Quoted.digitValue? digit).getD 0) 0

/-- The character whose code point is given in hexadecimal digits. -/
def characterOf? (digits : List Char) : Option Char :=
  if (numberOf 16 digits).isValidChar then some (Char.ofNat (numberOf 16 digits)) else none

/-- What an escape means, given the text behind its backslash, and how many characters of this text
belong to it. The characters that have names are given. -/
def escapeMeaning? (named : List Char → Option Char) : List Char → Option (List Char × Nat)
  | [] => none
  | selector :: rest =>
    match simpleEscapes.lookup selector, Text.Quoted.codeEscapes.lookup selector with
    | some meaning, _ => some (meaning, 1)
    | none, some width =>
      ((Literal.escapeDigits? width rest).bind characterOf?).map fun character =>
        ([character], width + 1)
    | none, none =>
      if selector = 'N' then
        (Literal.bracedName? rest).bind fun name =>
          (named name).map fun character => ([character], name.length + 3)
      else if isOctal selector then
        let digits := selector :: (rest.take 2).takeWhile isOctal
        some ([Char.ofNat (numberOf 8 digits)], digits.length)
      else some (['\\', selector], 1)

/-- The text of a literal with its escapes resolved. Some characters at its start are skipped,
because they belong to an escape before it. -/
def unescape (named : List Char → Option Char) : Nat → List Char → Option (List Char)
  | _, [] => some []
  | skipped + 1, _ :: rest => unescape named skipped rest
  | 0, character :: rest =>
    if character = '\\' then
      match escapeMeaning? named rest with
      | none => none
      | some (meaning, length) => (unescape named length rest).map (meaning ++ ·)
    else (unescape named 0 rest).map (character :: ·)

/-- The text that the literal at the start of some code stands for, and the code behind the
literal. Code cannot hold the character with the number zero. -/
def readText? (named : List Char → Option Char) : List Char → Option (List Char × List Char)
  | [] => none
  | quote :: code =>
    if isQuote quote then
      match Literal.read? quote code with
      | none => none
      | some (literal, rest) =>
        if Char.ofNat 0 ∈ literal.content then none
        else (unescape named 0 literal.content).map fun text => (text, rest)
    else none

/-- Whether some backslash stands before a character that selects an escape. -/
def hasEscape : List Char → Bool
  | [] => false
  | [_] => false
  | first :: second :: rest => (first == '\\' && selectsEscape second) || hasEscape (second :: rest)

/-- Characters that cannot stand between double quotes as they are. -/
def breaksOff (character : Char) : Bool :=
  character == '"' || character == '\n' || character == '\r' || character == Char.ofNat 0

/-- Whether a text stands for itself between double quotes, as long as it does not end with a
backslash. -/
def isQuotable (text : List Char) : Bool :=
  text.all (fun character => !breaksOff character) && !hasEscape text

section Escapes

variable {named : List Char → Option Char}

/-- A backslash before a character that selects no escape stays. -/
theorem escapeMeaning?_of_not_selects {selector : Char} (ordinary : selectsEscape selector = false)
    (rest : List Char) :
    escapeMeaning? named (selector :: rest) = some (['\\', selector], 1) := by
  simp only [selectsEscape, Bool.or_eq_false_iff, Option.isSome_eq_false_iff,
    Option.isNone_iff_eq_none, beq_eq_false_iff_ne, ne_eq] at ordinary
  obtain ⟨⟨⟨notSimple, notCode⟩, notName⟩, notOctal⟩ := ordinary
  rw [escapeMeaning?, notSimple, notCode]
  simp [notName, notOctal]

/-- An escape means at most one character. -/
theorem length_meaning_le {selector : Char} (selects : selectsEscape selector = true)
    {rest meaning : List Char} {length : Nat}
    (means : escapeMeaning? named (selector :: rest) = some (meaning, length)) :
    meaning.length ≤ 1 ∧ 1 ≤ length := by
  have short : ∀ entry ∈ simpleEscapes, entry.2.length ≤ 1 := by decide
  rw [escapeMeaning?] at means
  split at means
  · rename_i simple
    obtain ⟨before, after, split, _⟩ := List.lookup_eq_some_iff.mp simple
    obtain ⟨rfl, rfl⟩ := Prod.mk.inj (Option.some.inj means)
    exact ⟨short (selector, _) (by simp [split]), Nat.le_refl 1⟩
  · obtain ⟨character, _, same⟩ := Option.map_eq_some_iff.mp means
    obtain ⟨rfl, rfl⟩ := Prod.mk.inj same
    simp
  · rename_i notSimple notCode
    split at means
    · obtain ⟨name, _, found⟩ := Option.bind_eq_some_iff.mp means
      obtain ⟨character, _, same⟩ := Option.map_eq_some_iff.mp found
      obtain ⟨rfl, rfl⟩ := Prod.mk.inj same
      simp
    · rename_i notName
      have octal : isOctal selector = true := by
        simpa [selectsEscape, notSimple, notCode, notName] using selects
      rw [if_pos octal] at means
      obtain ⟨rfl, rfl⟩ := Prod.mk.inj (Option.some.inj means)
      simp

/-- A backslash and the escape behind it give way to what the escape means. -/
theorem unescape_backslash {rest meaning : List Char} {length : Nat}
    (means : escapeMeaning? named rest = some (meaning, length)) :
    unescape named 0 ('\\' :: rest) = (unescape named length rest).map (meaning ++ ·) := by
  rw [unescape, if_pos rfl, means]

/-- An escape of one character means what the table says. -/
theorem escapeMeaning?_simple {selector : Char} {meaning : List Char}
    (simple : simpleEscapes.lookup selector = some meaning) (rest : List Char) :
    escapeMeaning? named (selector :: rest) = some (meaning, 1) := by
  rw [escapeMeaning?, simple]

/-- Skipped characters play no part in what follows them. -/
theorem unescape_skip (skipped : Nat) (code : List Char) :
    unescape named skipped code = unescape named 0 (code.drop skipped) := by
  induction code generalizing skipped with
  | nil => simp [unescape]
  | cons first rest inductionHypothesis =>
    cases skipped with
    | zero => rfl
    | succ skipped => rw [unescape, inductionHypothesis, List.drop_succ_cons]

/-- A backslash behind a backslash makes an escape. -/
theorem ne_backslash_of_not_selects {character : Char} (idle : selectsEscape character = false) :
    character ≠ '\\' := by
  rintro rfl
  exact absurd idle (by decide)

/-- Only a backslash starts an escape. -/
theorem hasEscape_cons_of_ne {first : Char} (ordinary : first ≠ '\\') (rest : List Char) :
    hasEscape (first :: rest) = hasEscape rest := by
  cases rest with
  | nil => rfl
  | cons second rest => simp [hasEscape, ordinary]

/-- A backslash before a character that selects no escape can be passed together with it. -/
theorem hasEscape_idle {character : Char} (idle : selectsEscape character = false)
    (rest : List Char) : hasEscape ('\\' :: character :: rest) = hasEscape rest := by
  rw [hasEscape, idle, Bool.and_false, Bool.false_or,
    hasEscape_cons_of_ne (ne_backslash_of_not_selects idle)]

/-- What resolving escapes can do to a text: it makes it shorter, or there was no escape and it
leaves it as it is. -/
structure Resolves (code text : List Char) : Prop where
  bounded : text.length ≤ code.length
  unchanged : text.length = code.length → text = code ∧ hasEscape code = false

/-- The empty text stays empty. -/
theorem Resolves.nil : Resolves [] [] :=
  ⟨Nat.le_refl 0, fun _ => ⟨rfl, rfl⟩⟩

/-- A character that is no backslash stands for itself. -/
theorem Resolves.ordinary {code text : List Char} {character : Char}
    (notBackslash : character ≠ '\\') (others : Resolves code text) :
    Resolves (character :: code) (character :: text) := by
  constructor
  · exact Nat.succ_le_succ others.bounded
  · intro same
    obtain ⟨rfl, clean⟩ := others.unchanged (Nat.succ.inj same)
    exact ⟨rfl, by rw [hasEscape_cons_of_ne notBackslash, clean]⟩

/-- A backslash that makes no escape stands for itself. -/
theorem Resolves.idle {code text : List Char} {character : Char}
    (idle : selectsEscape character = false) (others : Resolves code text) :
    Resolves ('\\' :: character :: code) ('\\' :: character :: text) := by
  constructor
  · exact Nat.succ_le_succ (Nat.succ_le_succ others.bounded)
  · intro same
    obtain ⟨rfl, clean⟩ := others.unchanged (Nat.succ.inj (Nat.succ.inj same))
    exact ⟨rfl, by rw [hasEscape_idle idle, clean]⟩

/-- At most one character stands for a backslash and at least one character behind it. -/
theorem Resolves.escape {code text meaning : List Char} {length : Nat}
    (short : meaning.length ≤ 1) (taken : 1 ≤ length) (nonempty : code ≠ [])
    (others : Resolves (code.drop length) text) :
    Resolves ('\\' :: code) (meaning ++ text) := by
  have bounded := others.bounded
  have positive := List.length_pos_iff.mpr nonempty
  rw [List.length_drop] at bounded
  constructor
  · rw [List.length_append, List.length_cons]
    omega
  · rw [List.length_append, List.length_cons]
    intro same
    omega

/-- Resolving escapes makes a text shorter, unless there are none. -/
theorem resolves_unescape {skipped : Nat} {code text : List Char}
    (resolved : unescape named skipped code = some text) :
    Resolves (code.drop skipped) text := by
  induction code generalizing skipped text with
  | nil =>
    rw [unescape, Option.some.injEq] at resolved
    rw [← resolved, List.drop_nil]
    exact .nil
  | cons first rest inductionHypothesis =>
    cases skipped with
    | succ skipped =>
      rw [unescape] at resolved
      rw [List.drop_succ_cons]
      exact inductionHypothesis resolved
    | zero =>
      rw [List.drop_zero]
      rw [unescape] at resolved
      split at resolved
      · rename_i backslash
        rw [backslash]
        cases rest with
        | nil => simp [escapeMeaning?] at resolved
        | cons selector rest =>
          split at resolved
          · cases resolved
          · rename_i meaning length means
            obtain ⟨others, resolvedRest, rfl⟩ := Option.map_eq_some_iff.mp resolved
            have beyond := inductionHypothesis resolvedRest
            by_cases selects : selectsEscape selector = true
            · obtain ⟨short, taken⟩ := length_meaning_le selects means
              exact beyond.escape short taken (List.cons_ne_nil selector rest)
            · rw [Bool.not_eq_true] at selects
              rw [escapeMeaning?_of_not_selects selects] at means
              obtain ⟨rfl, rfl⟩ := Prod.mk.inj (Option.some.inj means)
              exact beyond.idle selects
      · rename_i ordinary
        obtain ⟨others, resolvedRest, rfl⟩ := Option.map_eq_some_iff.mp resolved
        exact (inductionHypothesis resolvedRest).ordinary ordinary

/-- Texts without an escape: a backslash stands only before a character that selects none. -/
inductive EscapeFree : List Char → Prop where
  | nil : EscapeFree []
  | ordinary {text : List Char} (character : Char) (notBackslash : character ≠ '\\')
      (others : EscapeFree text) : EscapeFree (character :: text)
  | backslash {text : List Char} (character : Char) (idle : selectsEscape character = false)
      (others : EscapeFree text) : EscapeFree ('\\' :: character :: text)

/-- A text that holds no escape can be taken apart into characters that stand for
themselves. A backslash at its end would escape the quote behind it. -/
theorem escapeFree_of_hasEscape {text : List Char} (clean : hasEscape text = false)
    (ends : text.getLast? ≠ some '\\') : EscapeFree text := by
  induction text using List.twoStepInduction with
  | nil => exact .nil
  | singleton first => exact .ordinary first (by simpa using ends) .nil
  | cons_cons first second rest beyond following =>
    rw [hasEscape, Bool.or_eq_false_iff] at clean
    rw [List.getLast?_cons_cons] at ends
    by_cases backslash : first = '\\'
    · have idle : selectsEscape second = false := by simpa [backslash] using clean.1
      have restEnds : rest.getLast? ≠ some '\\' := by
        cases rest with
        | nil => simp
        | cons third others => rwa [List.getLast?_cons_cons] at ends
      rw [hasEscape_cons_of_ne (ne_backslash_of_not_selects idle)] at clean
      rw [backslash]
      exact .backslash second idle (beyond clean.2 restEnds)
    · exact .ordinary first backslash (following second clean.2 ends)

/-- A text without an escape stands for itself. -/
theorem EscapeFree.unescape_eq {text : List Char} (free : EscapeFree text) :
    unescape named 0 text = some text := by
  induction free with
  | nil => rfl
  | ordinary character notBackslash others inductionHypothesis =>
    rw [unescape, if_neg notBackslash, inductionHypothesis]
    rfl
  | backslash character idle others inductionHypothesis =>
    rw [unescape, if_pos rfl, escapeMeaning?_of_not_selects idle]
    dsimp only
    rw [unescape, inductionHypothesis]
    rfl

end Escapes

section ShortLiterals

variable {quote : Char} {isTriple : Bool} {passed rest : List Char}

open Literal

/-- The text of a literal and the code behind it are shorter than the code at its start. -/
theorem length_contentFrom {code content : List Char}
    (read : contentFrom quote isTriple passed code = some (content, rest)) :
    content.length + rest.length < passed.length + code.length := by
  fun_induction contentFrom quote isTriple passed code with
  | case1 => cases read
  | case2 passed after inductionHypothesis =>
    have shorter := inductionHypothesis read
    simp only [List.length_cons] at shorter ⊢
    omega
  | case3 passed character after _ inductionHypothesis =>
    have shorter := inductionHypothesis read
    simp only [List.length_cons] at shorter ⊢
    omega
  | case4 passed character after =>
    obtain ⟨rfl, rfl⟩ := Prod.mk.inj (Option.some.inj read)
    simp
  | case5 passed character after =>
    obtain ⟨rfl, rfl⟩ := Prod.mk.inj (Option.some.inj read)
    simp only [List.length_reverse, List.length_drop, List.length_cons]
    omega
  | case6 => cases read
  | case7 passed character after _ _ _ _ _ inductionHypothesis =>
    have shorter := inductionHypothesis read
    simp only [List.length_cons] at shorter ⊢
    omega

/-- A character behind a backslash is passed together with it. -/
theorem contentFrom_escaped {character : Char} (notReturn : character ≠ '\r') :
    contentFrom quote isTriple passed ('\\' :: character :: rest) =
      contentFrom quote isTriple (character :: '\\' :: passed) rest := by
  rw [contentFrom]
  rintro _ rfl
  exact absurd rfl notReturn

/-- Between single marks, a character that neither closes nor escapes nor ends the line is
passed. -/
theorem contentFrom_ordinary {character : Char} (notBackslash : character ≠ '\\')
    (notQuote : character ≠ quote) (notFeed : character ≠ '\n') (notReturn : character ≠ '\r') :
    contentFrom quote false passed (character :: rest) =
      contentFrom quote false (character :: passed) rest := by
  rw [contentFrom]
  · simp [notQuote, notFeed, notReturn]
  · rintro _ rfl
    exact absurd rfl notBackslash
  · rintro _ _ rfl
    exact absurd rfl notBackslash

/-- The quote ends a literal between single marks. -/
theorem contentFrom_close (notBackslash : quote ≠ '\\') :
    contentFrom quote false passed (quote :: rest) = some (passed.reverse, rest) := by
  rw [contentFrom]
  · simp
  · rintro _ rfl
    exact absurd rfl notBackslash
  · rintro _ _ rfl
    exact absurd rfl notBackslash

/-- What may stand between single marks: the quote and line breaks only behind a backslash. -/
inductive Enclosed (quote : Char) : List Char → Prop where
  | nil : Enclosed quote []
  /-- A line break of two characters behind a backslash. -/
  | pair {text : List Char} (others : Enclosed quote text) :
      Enclosed quote ('\\' :: '\r' :: '\n' :: text)
  | escaped {text : List Char} (character : Char) (others : Enclosed quote text) :
      Enclosed quote ('\\' :: character :: text)
  | ordinary {text : List Char} (character : Char) (notBackslash : character ≠ '\\')
      (notQuote : character ≠ quote) (notBreak : ¬ (character = '\n' ∨ character = '\r'))
      (others : Enclosed quote text) : Enclosed quote (character :: text)

/-- A literal between single marks ends at the first quote that is not escaped. -/
theorem contentFrom_eq_some {code content : List Char}
    (read : contentFrom quote false passed code = some (content, rest)) :
    ∃ text, code = text ++ quote :: rest ∧ Enclosed quote text := by
  fun_induction contentFrom quote false passed code with
  | case1 => cases read
  | case2 passed after inductionHypothesis =>
    obtain ⟨text, rfl, enclosed⟩ := inductionHypothesis read
    exact ⟨_, rfl, enclosed.pair⟩
  | case3 passed character after _ inductionHypothesis =>
    obtain ⟨text, rfl, enclosed⟩ := inductionHypothesis read
    exact ⟨_, rfl, enclosed.escaped character⟩
  | case4 passed character after _ _ closes =>
    obtain ⟨rfl, rfl⟩ := Prod.mk.inj (Option.some.inj read)
    exact ⟨[], by simp [closes.1], .nil⟩
  | case5 passed character after _ _ stays closes => exact absurd ⟨closes.1, rfl⟩ stays
  | case6 => cases read
  | case7 passed character after _ unescaped stays _ notBreak inductionHypothesis =>
    obtain ⟨text, rfl, enclosed⟩ := inductionHypothesis read
    refine ⟨_, rfl, enclosed.ordinary character ?_ ?_ ?_⟩
    · -- A backslash would have taken the next character, and there is at least the quote.
      intro backslash
      cases text with
      | nil => exact unescaped quote rest backslash rfl
      | cons first others => exact unescaped first (others ++ quote :: rest) backslash rfl
    · exact fun closes => stays ⟨closes, rfl⟩
    · exact fun breaks => notBreak ⟨rfl, breaks⟩

/-- What may stand between single marks is passed as it is, unless it holds a carriage return. -/
theorem Enclosed.contentFrom_eq {text : List Char} (enclosed : Enclosed quote text)
    (notBackslash : quote ≠ '\\') (noReturn : '\r' ∉ text) :
    contentFrom quote false passed (text ++ quote :: rest) =
      some (passed.reverse ++ text, rest) := by
  induction enclosed generalizing passed with
  | nil => rw [List.nil_append, contentFrom_close notBackslash, List.append_nil]
  | pair => simp at noReturn
  | escaped character others inductionHypothesis =>
    simp only [List.mem_cons, not_or] at noReturn
    rw [List.cons_append, List.cons_append, contentFrom_escaped (Ne.symm noReturn.2.1),
      inductionHypothesis noReturn.2.2]
    simp
  | ordinary character notEscape notQuote notBreak others inductionHypothesis =>
    rw [List.mem_cons, not_or] at noReturn
    rw [not_or] at notBreak
    rw [List.cons_append, contentFrom_ordinary notEscape notQuote notBreak.1 notBreak.2,
      inductionHypothesis noReturn.2]
    simp

/-- A text that stands between single marks holds no quote and no line break, unless behind a
backslash that makes an escape of it. -/
theorem Enclosed.breaksOff_eq_false {text : List Char} (enclosed : Enclosed '"' text)
    (clean : hasEscape text = false) (noReturn : '\r' ∉ text) (noZero : Char.ofNat 0 ∉ text) :
    ∀ character ∈ text, breaksOff character = false := by
  induction enclosed with
  | nil => simp
  | pair => simp at noReturn
  | @escaped text character others inductionHypothesis =>
    simp only [hasEscape, beq_self_eq_true, Bool.true_and, Bool.or_eq_false_iff] at clean
    simp only [List.mem_cons, not_or] at noReturn noZero
    have ordinary : character ≠ '\\' ∧ character ≠ '"' ∧ character ≠ '\n' := by
      refine ⟨?_, ?_, ?_⟩ <;> rintro rfl <;> exact absurd clean.1 (by decide)
    rw [hasEscape_cons_of_ne ordinary.1] at clean
    have beyond := inductionHypothesis clean.2 noReturn.2.2 noZero.2.2
    simp only [List.forall_mem_cons]
    refine ⟨by decide, ?_, beyond⟩
    simp [breaksOff, ordinary, Ne.symm noReturn.2.1, Ne.symm noZero.2.1]
  | ordinary character notBackslash notQuote notBreak others inductionHypothesis =>
    simp only [List.mem_cons, not_or] at noReturn noZero notBreak
    rw [hasEscape_cons_of_ne notBackslash] at clean
    rw [List.forall_mem_cons]
    refine ⟨?_, inductionHypothesis clean noReturn.2 noZero.2⟩
    simp [breaksOff, notQuote, notBreak, Ne.symm noZero.1]

/-- A text is quotable if none of its characters breaks it off and it holds no escape. -/
theorem isQuotable_iff {text : List Char} :
    isQuotable text = true ↔
      (∀ character ∈ text, breaksOff character = false) ∧ hasEscape text = false := by
  simp [isQuotable]

/-- The four characters that break a text off. -/
theorem breaksOff_eq_false_iff {character : Char} :
    breaksOff character = false ↔ character ≠ '"' ∧ character ≠ '\n' ∧ character ≠ '\r' ∧
      character ≠ Char.ofNat 0 := by
  simp [breaksOff, and_assoc]

/-- Without backslashes there are no escapes. -/
theorem hasEscape_of_not_mem {text : List Char} (absent : '\\' ∉ text) :
    hasEscape text = false := by
  induction text with
  | nil => rfl
  | cons first rest inductionHypothesis =>
    rw [List.mem_cons, not_or] at absent
    rw [hasEscape_cons_of_ne (Ne.symm absent.1), inductionHypothesis absent.2]

/-- A text without backslashes that breaks nothing off is quotable. -/
theorem isQuotable_of_clean {text : List Char}
    (clean : ∀ character ∈ text, breaksOff character = false ∧ character ≠ '\\') :
    isQuotable text = true := by
  rw [isQuotable_iff]
  exact ⟨fun character member => (clean character member).1,
    hasEscape_of_not_mem fun member => (clean '\\' member).2 rfl⟩

/-- A character that selects no escape separates what stands on its two sides. -/
theorem hasEscape_append {separator : Char} (idle : selectsEscape separator = false)
    (left right : List Char) :
    hasEscape (left ++ separator :: right) = (hasEscape left || hasEscape right) := by
  have ends := hasEscape_cons_of_ne (ne_backslash_of_not_selects idle) right
  induction left with
  | nil => rw [List.nil_append, ends, hasEscape, Bool.false_or]
  | cons first rest inductionHypothesis =>
    cases rest with
    | nil => simp [hasEscape, idle, ends]
    | cons second others =>
      rw [List.cons_append, List.cons_append, hasEscape, hasEscape, ← List.cons_append,
        inductionHypothesis, Bool.or_assoc]

/-- Texts with a dot between them can be quoted together if they can be quoted alone. -/
theorem isQuotable_append_dot (left right : List Char) :
    isQuotable (left ++ '.' :: right) = (isQuotable left && isQuotable right) := by
  have idle : selectsEscape '.' = false := by decide
  have whole : breaksOff '.' = false := by decide
  rw [isQuotable, isQuotable, isQuotable, hasEscape_append idle, List.all_append, List.all_cons,
    whole, Bool.not_or]
  ac_rfl

/-- A text that breaks nothing off may stand between double quotes. -/
theorem EscapeFree.enclosed {text : List Char} (free : EscapeFree text)
    (whole : ∀ character ∈ text, breaksOff character = false) : Enclosed '"' text := by
  induction free with
  | nil => exact .nil
  | ordinary character notBackslash others inductionHypothesis =>
    rw [List.forall_mem_cons] at whole
    obtain ⟨notQuote, notFeed, notReturn, _⟩ := breaksOff_eq_false_iff.mp whole.1
    exact (inductionHypothesis whole.2).ordinary character notBackslash notQuote
      (not_or.mpr ⟨notFeed, notReturn⟩)
  | backslash character idle others inductionHypothesis =>
    simp only [List.forall_mem_cons] at whole
    exact (inductionHypothesis whole.2.2).escaped character

/-- Reading a literal means to find its end and to resolve its escapes. -/
theorem readText?_eq_some {named : List Char → Option Char} (isMark : isQuote quote = true)
    {code text : List Char} :
    readText? named (quote :: code) = some (text, rest) ↔
      ∃ literal, read? quote code = some (literal, rest) ∧ Char.ofNat 0 ∉ literal.content ∧
        unescape named 0 literal.content = some text := by
  rw [readText?, if_pos isMark]
  cases read? quote code with
  | none => simp
  | some found =>
    obtain ⟨literal, after⟩ := found
    by_cases zero : Char.ofNat 0 ∈ literal.content
    · simp [zero]
    · simp [zero, and_comm]

/-- A text between single marks is read up to its end. An empty one with a third mark behind it
would be taken for the start of a long literal. -/
theorem Enclosed.read?_eq {text : List Char} (enclosed : Enclosed quote text)
    (notBackslash : quote ≠ '\\') (noReturn : '\r' ∉ text)
    (separate : text ≠ [] ∨ rest.head? ≠ some quote) :
    read? quote (text ++ quote :: rest) = some (⟨quote, false, text⟩, rest) := by
  have single : [quote, quote].isPrefixOf (text ++ quote :: rest) = false := by
    cases enclosed with
    | nil =>
      cases rest with
      | nil => simp [List.isPrefixOf]
      | cons next others =>
        have apart : quote ≠ next := by
          rintro rfl
          simp at separate
        simp [List.isPrefixOf, apart]
    | pair => simp [List.isPrefixOf, notBackslash]
    | escaped => simp [List.isPrefixOf, notBackslash]
    | ordinary character _ notQuote => simp [List.isPrefixOf, Ne.symm notQuote]
  rw [read?, single, if_neg (by decide), enclosed.contentFrom_eq notBackslash noReturn]
  simp [Text.unifyNewlines_of_not_mem noReturn]

/-- A text that its quoted form stands for is quotable. -/
theorem isQuotable_of_readText? {named : List Char → Option Char} {text : List Char}
    (read : readText? named ('"' :: (text ++ '"' :: rest)) = some (text, rest)) :
    isQuotable text = true := by
  obtain ⟨literal, found, noZero, resolved⟩ := (readText?_eq_some (by decide)).mp read
  rw [read?, Option.map_eq_some_iff] at found
  obtain ⟨⟨content, after⟩, found, same⟩ := found
  obtain ⟨rfl, rfl⟩ := Prod.mk.inj same
  have resolves := resolves_unescape resolved
  rw [List.drop_zero] at resolves
  have bounded := resolves.bounded
  dsimp only at bounded noZero
  have unified := Text.length_unifyNewlines_le content
  have shorter := length_contentFrom found
  -- Nothing is long enough for the text unless every character of it stands for itself.
  split at found
  · rename_i triple
    rw [if_pos triple] at shorter
    simp only [List.length_nil, List.length_drop, List.length_append, List.length_cons] at shorter
    omega
  · rename_i single
    rw [if_neg single] at shorter
    simp only [List.length_nil, List.length_append, List.length_cons] at shorter
    rw [Bool.not_eq_true] at single
    rw [single] at found
    obtain ⟨other, split, enclosed⟩ := contentFrom_eq_some found
    rw [← List.append_cancel_right split] at enclosed
    have whole : text.length = (Text.unifyNewlines content).length := by omega
    obtain ⟨same, clean⟩ := resolves.unchanged whole
    dsimp only at same clean
    rw [← same] at clean noZero
    have noReturn : '\r' ∉ text := by
      rw [same]
      exact Text.carriageReturn_not_mem_unifyNewlines content
    exact isQuotable_iff.mpr ⟨enclosed.breaksOff_eq_false clean noReturn noZero, clean⟩

/-- Between double quotes, a text that does not end with a backslash stands for itself exactly if
it is quotable. -/
theorem readText?_quoted_iff {named : List Char → Option Char} {text : List Char}
    (separate : text ≠ [] ∨ rest.head? ≠ some '"') (ends : text.getLast? ≠ some '\\') :
    readText? named ('"' :: (text ++ '"' :: rest)) = some (text, rest) ↔
      isQuotable text = true := by
  constructor
  · exact isQuotable_of_readText?
  · intro quotable
    obtain ⟨whole, clean⟩ := isQuotable_iff.mp quotable
    have free := escapeFree_of_hasEscape clean ends
    have absent : ∀ character, breaksOff character = true → character ∉ text := by
      intro character breaks member
      rw [whole character member] at breaks
      cases breaks
    have noReturn := absent '\r' (by decide)
    rw [readText?_eq_some (by decide)]
    refine ⟨⟨'"', false, text⟩, ?_, absent _ (by decide), free.unescape_eq⟩
    exact (free.enclosed whole).read?_eq (by decide) noReturn separate

end ShortLiterals

end ServiceStubs.Code
