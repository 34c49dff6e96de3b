import ServiceStubs.Proofs.Code.Literal
import ServiceStubs.Proofs.Text.Split

/-!
# Where long literals end

A literal between triple double quotes ends at the first three quotes in a row that are not escaped.
A character is escaped by a backslash before it, unless the backslash is escaped itself. So a text
can stand in such a literal exactly if it holds no such quotes, and a text that is put together
with harmless characters between its parts holds them exactly if a part does.
-/

namespace ServiceStubs.Code

/-- Whether the character behind another one is escaped, given whether that one is. -/
def escapesNext (escaped : Bool) (character : Char) : Bool :=
  character == '\\' && !escaped

/-- A text with three quotes in a row, the first of which is not escaped. It is given whether the
text starts with an escaped character. -/
def HoldsTriple (escaped : Bool) (text : List Char) : Prop :=
  ∃ before after, text = before ++ '"' :: '"' :: '"' :: after ∧
    before.foldl escapesNext escaped = false

/-- Characters that neither close a literal nor escape what follows them. -/
def isHarmless (character : Char) : Bool :=
  character != '"' && character != '\\'

/-- The text behind the first three quotes in a row that are not escaped. -/
def closing? (escaped : Bool) : List Char → Option (List Char)
  | [] => none
  | character :: rest =>
    if escaped = false ∧ ['"', '"', '"'].isPrefixOf (character :: rest) then some (rest.drop 2)
    else closing? (escapesNext escaped character) rest

section Closing

variable {escaped : Bool}

/-- There are closing quotes exactly if there are three in a row that are not escaped. -/
theorem isSome_closing?_iff {text : List Char} :
    (closing? escaped text).isSome = true ↔ HoldsTriple escaped text := by
  induction text generalizing escaped with
  | nil => simp [closing?, HoldsTriple]
  | cons character rest inductionHypothesis =>
    rw [closing?]
    split
    · rename_i closes
      obtain ⟨after, split⟩ := List.isPrefixOf_iff_prefix.mp closes.2
      simp only [Option.isSome_some, true_iff]
      exact ⟨[], after, split.symm, closes.1⟩
    · rename_i stays
      rw [inductionHypothesis]
      constructor
      · rintro ⟨before, after, rfl, unescaped⟩
        exact ⟨character :: before, after, rfl, unescaped⟩
      · rintro ⟨before, after, split, unescaped⟩
        cases before with
        | nil =>
          refine absurd ⟨unescaped, ?_⟩ stays
          rw [split]
          exact List.isPrefixOf_iff_prefix.mpr ⟨after, rfl⟩
        | cons first others =>
          obtain ⟨rfl, rfl⟩ := List.cons.inj split
          exact ⟨others, after, rfl, unescaped⟩

instance (text : List Char) : Decidable (HoldsTriple escaped text) :=
  decidable_of_iff _ isSome_closing?_iff

/-- A literal stays open exactly if its text holds no three quotes that could close it. -/
theorem closing?_eq_none_iff {text : List Char} :
    closing? escaped text = none ↔ ¬ HoldsTriple escaped text := by
  rw [← isSome_closing?_iff, Bool.not_eq_true, Option.isSome_eq_false_iff,
    Option.isNone_iff_eq_none]

/-- Only a backslash escapes the character behind it. -/
theorem escapesNext_of_ne {character : Char} (notBackslash : character ≠ '\\') :
    escapesNext escaped character = false := by
  simp [escapesNext, notBackslash]

/-- Quotes in a row do not reach over a character that is none. -/
theorem isPrefixOf_append_cons {separator : Char} (notQuote : separator ≠ '"')
    (text code : List Char) :
    ['"', '"', '"'].isPrefixOf (text ++ separator :: code) = ['"', '"', '"'].isPrefixOf text := by
  match text with
  | [] => simp [List.isPrefixOf, Ne.symm notQuote]
  | [_] => simp [List.isPrefixOf, Ne.symm notQuote]
  | [_, _] => simp [List.isPrefixOf, Ne.symm notQuote]
  | _ :: _ :: _ :: _ => simp [List.isPrefixOf]

/-- The two characters that are not harmless. -/
theorem isHarmless_iff {character : Char} :
    isHarmless character = true ↔ character ≠ '"' ∧ character ≠ '\\' := by
  simp [isHarmless]

/-- A harmless character separates what stands on its two sides. -/
theorem closing?_append {separator : Char} (harmless : isHarmless separator = true)
    (text code : List Char) :
    closing? escaped (text ++ separator :: code) =
      ((closing? escaped text).map (· ++ separator :: code)).or (closing? false code) := by
  obtain ⟨notQuote, notBackslash⟩ := isHarmless_iff.mp harmless
  induction text generalizing escaped with
  | nil =>
    simp [closing?, List.isPrefixOf, Ne.symm notQuote, escapesNext_of_ne notBackslash]
  | cons character rest inductionHypothesis =>
    have same := isPrefixOf_append_cons notQuote (character :: rest) code
    rw [List.cons_append] at same ⊢
    rw [closing?, closing?, same]
    split
    · rename_i closes
      obtain ⟨after, split⟩ := List.isPrefixOf_iff_prefix.mp closes.2
      obtain ⟨_, rfl⟩ := List.cons.inj split
      rfl
    · exact inductionHypothesis

/-- A harmless text is passed over. -/
theorem closing?_harmless {text : List Char} (harmless : text.all isHarmless = true)
    (code : List Char) :
    closing? false (text ++ code) = closing? false code := by
  induction text with
  | nil => rfl
  | cons first others inductionHypothesis =>
    rw [List.all_cons, Bool.and_eq_true] at harmless
    exact (closing?_append harmless.1 [] (others ++ code)).trans (inductionHypothesis harmless.2)

/-- The empty text holds no quotes. -/
theorem holdsTriple_nil : ¬ HoldsTriple escaped [] := by
  simp [HoldsTriple]

/-- A harmless character keeps the quotes on its two sides apart. -/
theorem holdsTriple_append {separator : Char} (harmless : isHarmless separator = true)
    {text code : List Char} :
    HoldsTriple escaped (text ++ separator :: code) ↔
      HoldsTriple escaped text ∨ HoldsTriple false code := by
  simp only [← isSome_closing?_iff, closing?_append harmless, Option.isSome_or,
    Option.isSome_map, Bool.or_eq_true]

/-- Harmless characters at the start change nothing. -/
theorem holdsTriple_harmless {text : List Char} (harmless : text.all isHarmless = true)
    {code : List Char} :
    HoldsTriple false (text ++ code) ↔ HoldsTriple false code := by
  rw [← isSome_closing?_iff, closing?_harmless harmless, isSome_closing?_iff]

/-- A list with commas holds no triple quotes that its parts do not hold. -/
theorem holdsTriple_joinWith {parts : List (List Char)} :
    HoldsTriple false (Text.joinWith [',', ' '] parts) ↔
      ∃ part ∈ parts, HoldsTriple false part := by
  induction parts with
  | nil => simp [Text.joinWith, holdsTriple_nil]
  | cons part others inductionHypothesis =>
    cases others with
    | nil => simp [Text.joinWith]
    | cons next others =>
      have spelled : Text.joinWith [',', ' '] (part :: next :: others) =
          part ++ ',' :: ([' '] ++ Text.joinWith [',', ' '] (next :: others)) := by
        simp [Text.joinWith]
      rw [spelled, holdsTriple_append (by decide), holdsTriple_harmless (by decide),
        inductionHypothesis]
      simp

end Closing

section Reading

open Literal

/-- Between triple double quotes, a literal ends at the first quotes that close it. -/
theorem map_snd_contentFrom (passed code : List Char) :
    (contentFrom '"' true passed code).map Prod.snd = closing? false code := by
  fun_induction contentFrom '"' true passed code with
  | case1 => rfl
  | case2 passed rest inductionHypothesis =>
    rw [inductionHypothesis]
    simp [closing?, List.isPrefixOf, escapesNext]
  | case3 passed character rest _ inductionHypothesis =>
    rw [inductionHypothesis]
    simp [closing?, List.isPrefixOf, escapesNext]
  | case4 passed character rest _ _ closes => simp at closes
  | case5 passed character rest _ _ _ closes =>
    simp [closing?, closes.1, closes.2, List.isPrefixOf]
  | case6 passed character rest _ _ _ _ ends => simp at ends
  | case7 passed character rest _ unescaped _ stays _ inductionHypothesis =>
    have notHere : ¬ (false = false ∧ ['"', '"', '"'].isPrefixOf (character :: rest) = true) := by
      rintro ⟨_, closes⟩
      rw [List.isPrefixOf, Bool.and_eq_true, beq_iff_eq] at closes
      exact stays ⟨closes.1.symm, closes.2⟩
    rw [inductionHypothesis, closing?, if_neg notHere]
    by_cases backslash : character = '\\'
    · -- Only the last character of the code can be a backslash with nothing to escape.
      cases rest with
      | nil => rfl
      | cons next others => exact absurd rfl (unescaped next others backslash)
    · rw [escapesNext_of_ne backslash]

/-- A text stands in a literal between triple double quotes exactly if it holds no triple quotes.
Something harmless keeps its end apart from the closing quotes. -/
theorem read?_triple_iff {separator : Char} (harmless : isHarmless separator = true)
    {text ending rest : List Char} (endingHarmless : ending.all isHarmless = true) :
    (∃ literal, read? '"' ('"' :: '"' ::
        (text ++ separator :: (ending ++ '"' :: '"' :: '"' :: rest))) = some (literal, rest)) ↔
      ¬ HoldsTriple false text := by
  have behind : (∃ literal, read? '"' ('"' :: '"' ::
        (text ++ separator :: (ending ++ '"' :: '"' :: '"' :: rest))) = some (literal, rest)) ↔
      closing? false (text ++ separator :: (ending ++ '"' :: '"' :: '"' :: rest)) = some rest := by
    rw [← map_snd_contentFrom []]
    simp [read?, List.isPrefixOf, exists_comm]
  have own : closing? false (ending ++ '"' :: '"' :: '"' :: rest) = some rest :=
    closing?_harmless endingHarmless _
  rw [behind, closing?_append harmless, own, ← closing?_eq_none_iff]
  cases found : closing? false text with
  | none => simp
  | some after =>
    rw [Option.map_some, Option.some_or, Option.some.injEq]
    refine iff_of_false ?_ (by simp)
    -- What is left behind the earlier quotes still holds the closing ones.
    intro same
    have length := congrArg List.length same
    simp only [List.length_append, List.length_cons] at length
    omega

end Reading

end ServiceStubs.Code
