import ServiceStubs.Text.Split

/-!
# Laws of cutting and joining

Cutting at a separator respects the places where the separator stands, so a text may be cut one
half at a time. Joining and cutting undo each other as long as no part holds the separator. Neither
brings in or loses a character other than the separator. The beginnings of a text are compared at
the end.
-/

namespace ServiceStubs.Text

/-- A text is cut on both sides of a separator independently. -/
theorem splitAt_append_separator (separator : Char) (left right : List Char) :
    splitAt separator (left ++ separator :: right) =
      splitAt separator left ++ splitAt separator right := by
  induction left with
  | nil => simp [splitAt]
  | cons character rest inductionHypothesis =>
    by_cases equal : character = separator
    · simp [splitAt, equal, inductionHypothesis]
    · simp only [List.cons_append, splitAt, equal, if_false, inductionHypothesis]
      cases parts : splitAt separator rest with
      | nil => exact absurd parts (splitAt_ne_nil separator rest)
      | cons part others => rfl

/-- There is one part more than there are separators. -/
theorem length_splitAt (separator : Char) (text : List Char) :
    (splitAt separator text).length = text.count separator + 1 := by
  induction text with
  | nil => rfl
  | cons character rest inductionHypothesis =>
    by_cases equal : character = separator
    · rw [splitAt, if_pos equal, equal, List.count_cons_self, List.length_cons,
        inductionHypothesis]
    · rw [splitAt, if_neg equal, List.count_cons_of_ne equal, ← inductionHypothesis]
      cases parts : splitAt separator rest with
      | nil => exact absurd parts (splitAt_ne_nil separator rest)
      | cons part others => rfl

/-- A text without the separator is its only part. -/
theorem splitAt_of_not_mem {separator : Char} {text : List Char} (absent : separator ∉ text) :
    splitAt separator text = [text] := by
  induction text with
  | nil => rfl
  | cons character rest inductionHypothesis =>
    rw [List.mem_cons, not_or] at absent
    simp [splitAt, Ne.symm absent.1, inductionHypothesis absent.2]

/-- No part holds the separator. -/
theorem not_mem_of_mem_splitAt {separator : Char} {text part : List Char}
    (member : part ∈ splitAt separator text) : separator ∉ part := by
  induction text generalizing part with
  | nil =>
    rw [splitAt, List.mem_singleton] at member
    simp [member]
  | cons character rest inductionHypothesis =>
    by_cases equal : character = separator
    · rw [splitAt, if_pos equal, List.mem_cons] at member
      rcases member with rfl | member
      · simp
      · exact inductionHypothesis member
    · rw [splitAt, if_neg equal] at member
      cases parts : splitAt separator rest with
      | nil => exact absurd parts (splitAt_ne_nil separator rest)
      | cons first others =>
        rw [parts] at member
        rcases List.mem_cons.mp member with rfl | member
        · have firstClean : separator ∉ first := inductionHypothesis (by simp [parts])
          simp [firstClean, Ne.symm equal]
        · exact inductionHypothesis (by simp [parts, member])

/-- Cutting what was joined gives the parts back. -/
theorem splitAt_joinWith {separator : Char} {parts : List (List Char)} (nonempty : parts ≠ [])
    (clean : ∀ part ∈ parts, separator ∉ part) :
    splitAt separator (joinWith [separator] parts) = parts := by
  induction parts with
  | nil => exact absurd rfl nonempty
  | cons part parts inductionHypothesis =>
    have partClean : separator ∉ part := clean part (by simp)
    cases parts with
    | nil => simpa [joinWith] using splitAt_of_not_mem partClean
    | cons next others =>
      have restParts := inductionHypothesis (by simp) fun other member =>
        clean other (by simp [member])
      simp only [joinWith, List.append_assoc, List.singleton_append]
      rw [splitAt_append_separator, splitAt_of_not_mem partClean, restParts]
      rfl

/-- Joining is compositional as long as both sides have a part. -/
theorem joinWith_append (separator : List Char) {left right : List (List Char)}
    (leftNonempty : left ≠ []) (rightNonempty : right ≠ []) :
    joinWith separator (left ++ right) =
      joinWith separator left ++ separator ++ joinWith separator right := by
  induction left with
  | nil => exact absurd rfl leftNonempty
  | cons part parts inductionHypothesis =>
    cases parts with
    | nil =>
      cases right with
      | nil => exact absurd rfl rightNonempty
      | cons next others => simp [joinWith]
    | cons next others =>
      have rest := inductionHypothesis (by simp)
      simp only [List.cons_append] at rest ⊢
      simp only [joinWith, rest, List.append_assoc]

/-- What stands before the first separator is determined by the whole, and so is the rest. -/
theorem append_cons_cancel {α : Type} {separator : α} {left right leftRest rightRest : List α}
    (leftClean : separator ∉ left) (rightClean : separator ∉ right)
    (equal : left ++ separator :: leftRest = right ++ separator :: rightRest) :
    left = right ∧ leftRest = rightRest := by
  induction left generalizing right with
  | nil =>
    cases right with
    | nil => simpa using equal
    | cons first others =>
      obtain ⟨rfl, _⟩ := List.cons.inj equal
      simp at rightClean
  | cons first others inductionHypothesis =>
    cases right with
    | nil =>
      obtain ⟨rfl, _⟩ := List.cons.inj equal
      simp at leftClean
    | cons second rest =>
      rw [List.mem_cons, not_or] at leftClean rightClean
      obtain ⟨rfl, restEqual⟩ := List.cons.inj equal
      obtain ⟨rfl, rfl⟩ := inductionHypothesis leftClean.2 rightClean.2 restEqual
      exact ⟨rfl, rfl⟩

/-- Joining loses no character. -/
theorem mem_joinWith_of_mem (separator : List Char) {parts : List (List Char)} {part : List Char}
    {character : Char} (member : part ∈ parts) (inside : character ∈ part) :
    character ∈ joinWith separator parts := by
  induction parts with
  | nil => simp at member
  | cons first others inductionHypothesis =>
    cases others with
    | nil =>
      rw [List.mem_singleton.mp member] at inside
      exact inside
    | cons next rest =>
      rw [joinWith, List.mem_append, List.mem_append]
      rcases List.mem_cons.mp member with rfl | later
      · exact .inl (.inl inside)
      · exact .inr (inductionHypothesis later)

/-- Cutting adds no character. -/
theorem mem_of_mem_splitAt {separator character : Char} {text part : List Char}
    (member : part ∈ splitAt separator text) (inside : character ∈ part) :
    character ∈ text := by
  rw [← joinWith_splitAt separator text]
  exact mem_joinWith_of_mem [separator] member inside

/-- Joining adds no character but those of the separator. -/
theorem mem_joinWith {separator : List Char} {parts : List (List Char)} {character : Char}
    (member : character ∈ joinWith separator parts) :
    character ∈ separator ∨ ∃ part ∈ parts, character ∈ part := by
  induction parts with
  | nil => simp [joinWith] at member
  | cons part parts inductionHypothesis =>
    cases parts with
    | nil => exact .inr ⟨part, by simp, member⟩
    | cons next others =>
      rw [joinWith, List.mem_append, List.mem_append] at member
      rcases member with (inPart | inSeparator) | inRest
      · exact .inr ⟨part, by simp, inPart⟩
      · exact .inl inSeparator
      · rcases inductionHypothesis inRest with inSeparator | ⟨other, found, inside⟩
        · exact .inl inSeparator
        · exact .inr ⟨other, List.mem_cons_of_mem _ found, inside⟩

/-- `splitAt_append_separator` on strings. -/
theorem splitString_append (separator : Char) (left right : String) :
    splitString separator (left ++ String.singleton separator ++ right) =
      splitString separator left ++ splitString separator right := by
  simp only [splitString, String.toList_append, String.toList_singleton, List.append_assoc,
    List.singleton_append, splitAt_append_separator, List.map_append]

/-- Cutting a string leaves at least one part. -/
theorem splitString_ne_nil (separator : Char) (text : String) :
    splitString separator text ≠ [] := by
  simp [splitString, splitAt_ne_nil]

/-- `not_mem_of_mem_splitAt` on strings. -/
theorem not_mem_of_mem_splitString {separator : Char} {text part : String}
    (member : part ∈ splitString separator text) : separator ∉ part.toList := by
  rw [splitString, List.mem_map] at member
  obtain ⟨characters, found, rfl⟩ := member
  rw [String.toList_ofList]
  exact not_mem_of_mem_splitAt found

/-- `splitAt_joinWith` on strings. -/
theorem splitString_joinStrings {separator : Char} {parts : List String} (nonempty : parts ≠ [])
    (clean : ∀ part ∈ parts, separator ∉ part.toList) :
    splitString separator (joinStrings (String.singleton separator) parts) = parts := by
  have cleanLists : ∀ part ∈ parts.map String.toList, separator ∉ part := by
    simpa using clean
  rw [splitString, joinStrings, String.toList_ofList, String.toList_singleton,
    splitAt_joinWith (by simpa using nonempty) cleanLists, List.map_map]
  simp [Function.comp_def]

/-- `joinWith_append` on strings. -/
theorem joinStrings_append (separator : String) {left right : List String}
    (leftNonempty : left ≠ []) (rightNonempty : right ≠ []) :
    joinStrings separator (left ++ right) =
      joinStrings separator left ++ separator ++ joinStrings separator right := by
  rw [← String.toList_inj]
  simp only [joinStrings, List.map_append, String.toList_append, String.toList_ofList]
  exact joinWith_append _ (by simpa using leftNonempty) (by simpa using rightNonempty)

/-- A text starts with another one if something completes that one. -/
theorem startsWith_iff {text start : String} :
    startsWith text start = true ↔ ∃ rest, text = start ++ rest := by
  rw [startsWith, List.isPrefixOf_iff_prefix]
  constructor
  · rintro ⟨rest, spelled⟩
    refine ⟨String.ofList rest, ?_⟩
    rw [← String.toList_inj, ← spelled, String.toList_append, String.toList_ofList]
  · rintro ⟨rest, rfl⟩
    rw [String.toList_append]
    exact List.prefix_append _ _

/-- A text starts with one of two others only, unless one of them starts with the other. -/
theorem startsWith_apart {text first second : String} (starts : startsWith text first = true)
    (apart : startsWith second first = false) (apartToo : startsWith first second = false) :
    startsWith text second = false := by
  rw [Bool.eq_false_iff]
  intro startsToo
  rw [startsWith, List.isPrefixOf_iff_prefix] at starts startsToo
  rw [startsWith, Bool.eq_false_iff, Ne, List.isPrefixOf_iff_prefix] at apart apartToo
  rcases List.prefix_or_prefix_of_prefix starts startsToo with within | within
  · exact apart within
  · exact apartToo within

end ServiceStubs.Text
