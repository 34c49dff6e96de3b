/-!
# Cutting and joining texts

A text cut at a separator has one part more than it has separators, and joining the parts gives
the text back. The functions work on character lists; the versions for `String` only convert.
-/

namespace ServiceStubs.Text

/-- The parts of a text between the occurrences of a separator; empty parts are kept. -/
def splitAt (separator : Char) : List Char → List (List Char)
  | [] => [[]]
  | character :: rest =>
    if character = separator then [] :: splitAt separator rest
    else
      match splitAt separator rest with
      | [] => [[character]]
      | part :: parts => (character :: part) :: parts

/-- The parts one after another, with a separator between neighbours. -/
def joinWith (separator : List Char) : List (List Char) → List Char
  | [] => []
  | [part] => part
  | part :: next :: parts => part ++ separator ++ joinWith separator (next :: parts)

/-- `splitAt` on strings. -/
def splitString (separator : Char) (text : String) : List String :=
  (splitAt separator text.toList).map String.ofList

/-- `joinWith` on strings. -/
def joinStrings (separator : String) (parts : List String) : String :=
  String.ofList (joinWith separator.toList (parts.map String.toList))

/-- As many blanks as are asked for. -/
def blanks (count : Nat) : String :=
  String.ofList (List.replicate count ' ')

/-- Whether a text starts with another one. -/
def startsWith (text start : String) : Bool :=
  start.toList.isPrefixOf text.toList

/-- Whether a text ends with another one. -/
def endsWith (text ending : String) : Bool :=
  ending.toList.isSuffixOf text.toList

/-- Splitting gives at least one part. -/
theorem splitAt_ne_nil (separator : Char) (text : List Char) : splitAt separator text ≠ [] := by
  induction text with
  | nil => simp [splitAt]
  | cons character rest inductionHypothesis =>
    unfold splitAt
    split
    · simp
    · cases parts : splitAt separator rest with
      | nil => exact absurd parts inductionHypothesis
      | cons part parts => simp

/-- Joining what was cut gives the text back. -/
theorem joinWith_splitAt (separator : Char) (text : List Char) :
    joinWith [separator] (splitAt separator text) = text := by
  induction text with
  | nil => rfl
  | cons character rest inductionHypothesis =>
    unfold splitAt
    cases parts : splitAt separator rest with
    | nil => exact absurd parts (splitAt_ne_nil separator rest)
    | cons part parts' =>
      rw [parts] at inductionHypothesis
      by_cases equal : character = separator
      · subst equal
        simp [joinWith, inductionHypothesis]
      · cases parts' with
        | nil => simpa [equal, joinWith] using inductionHypothesis
        | cons next others => simpa [equal, joinWith] using inductionHypothesis

end ServiceStubs.Text
