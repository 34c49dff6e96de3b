import ServiceStubs.Text.Newline

/-!
# Unified line endings as replacement

Unifying line endings walks over a text once. It is the same as replacing each pair of carriage
return and line feed first, and then each carriage return that is left. No carriage return stays,
and a text without one is not changed.
-/

namespace ServiceStubs.Text

/-- Every occurrence of a pattern, found from left to right and not overlapping the one before,
gives way to a replacement. -/
def replaceAll (pattern replacement : List Char) : List Char → List Char
  | [] => []
  | character :: rest =>
    if pattern.isPrefixOf (character :: rest) then
      replacement ++ replaceAll pattern replacement (rest.drop (pattern.length - 1))
    else character :: replaceAll pattern replacement rest
termination_by text => text.length
decreasing_by
  · rw [List.length_drop, List.length_cons]
    omega
  · rw [List.length_cons]
    omega

section Replacement

variable {pattern replacement rest : List Char}

/-- There is nothing to replace in the empty text. -/
theorem replaceAll_nil : replaceAll pattern replacement [] = [] := by
  rw [replaceAll]

/-- An occurrence in front is replaced. -/
theorem replaceAll_append (nonempty : pattern ≠ []) :
    replaceAll pattern replacement (pattern ++ rest) =
      replacement ++ replaceAll pattern replacement rest := by
  cases pattern with
  | nil => exact absurd rfl nonempty
  | cons first others =>
    have here : (first :: others).isPrefixOf (first :: (others ++ rest)) = true :=
      List.isPrefixOf_iff_prefix.mpr (List.prefix_append (first :: others) rest)
    rw [List.cons_append, replaceAll, if_pos here, List.length_cons, Nat.add_sub_cancel,
      List.drop_left]

/-- A character that no occurrence starts with stays. -/
theorem replaceAll_cons {character : Char}
    (absent : pattern.isPrefixOf (character :: rest) = false) :
    replaceAll pattern replacement (character :: rest) =
      character :: replaceAll pattern replacement rest := by
  rw [replaceAll, if_neg (by simp [absent])]

end Replacement

/-- Line endings are unified by two replacements. -/
theorem unifyNewlines_eq_replaceAll (text : List Char) :
    unifyNewlines text = replaceAll ['\r'] ['\n'] (replaceAll ['\r', '\n'] ['\n'] text) := by
  have keepsFeed : ∀ rest, replaceAll ['\r'] ['\n'] ('\n' :: rest) =
      '\n' :: replaceAll ['\r'] ['\n'] rest := fun rest =>
    replaceAll_cons (by simp [List.isPrefixOf])
  induction text using unifyNewlines.induct with
  | case1 rest inductionHypothesis =>
    have pair : replaceAll ['\r', '\n'] ['\n'] ('\r' :: '\n' :: rest) =
        '\n' :: replaceAll ['\r', '\n'] ['\n'] rest :=
      replaceAll_append (by simp)
    rw [unifyNewlines, pair, keepsFeed, inductionHypothesis]
  | case2 rest unpaired inductionHypothesis =>
    have alone : ['\r', '\n'].isPrefixOf ('\r' :: rest) = false := by
      cases rest with
      | nil => rfl
      | cons next others =>
        have notFeed : '\n' ≠ next := fun feed => unpaired others (by rw [feed])
        simp [List.isPrefixOf, notFeed]
    have single : replaceAll ['\r'] ['\n'] ('\r' :: replaceAll ['\r', '\n'] ['\n'] rest) =
        '\n' :: replaceAll ['\r'] ['\n'] (replaceAll ['\r', '\n'] ['\n'] rest) :=
      replaceAll_append (by simp)
    rw [unifyNewlines, replaceAll_cons alone, single, inductionHypothesis]
    exact unpaired
  | case3 character rest _ notReturn inductionHypothesis =>
    have apart : '\r' ≠ character := fun equal => notReturn equal.symm
    rw [unifyNewlines, replaceAll_cons (by simp [List.isPrefixOf, apart]),
      replaceAll_cons (by simp [List.isPrefixOf, apart]), inductionHypothesis]
    · assumption
    · exact notReturn
  | case4 => rw [unifyNewlines, replaceAll_nil, replaceAll_nil]

/-- Unifying newlines makes no text longer. -/
theorem length_unifyNewlines_le (text : List Char) :
    (unifyNewlines text).length ≤ text.length := by
  fun_induction unifyNewlines text with
  | case1 rest inductionHypothesis =>
    simp only [List.length_cons]
    omega
  | case2 => simpa
  | case3 => simpa
  | case4 => simp

/-- No carriage return is left. -/
theorem carriageReturn_not_mem_unifyNewlines (text : List Char) : '\r' ∉ unifyNewlines text := by
  fun_induction unifyNewlines text with
  | case1 => simpa
  | case2 => simpa
  | case3 character rest _ notReturn inductionHypothesis =>
    rw [List.mem_cons, not_or]
    exact ⟨fun equal => notReturn equal.symm, inductionHypothesis⟩
  | case4 => simp

/-- A text without carriage returns stays as it is. -/
theorem unifyNewlines_of_not_mem {text : List Char} (absent : '\r' ∉ text) :
    unifyNewlines text = text := by
  fun_induction unifyNewlines text with
  | case1 => simp at absent
  | case2 => simp at absent
  | case3 character rest _ _ inductionHypothesis =>
    rw [List.mem_cons, not_or] at absent
    rw [inductionHypothesis absent.2]
  | case4 => rfl

end ServiceStubs.Text
