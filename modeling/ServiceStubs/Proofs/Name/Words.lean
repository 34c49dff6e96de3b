import Mathlib.Data.List.Forall2
import Mathlib.Data.List.TakeWhile
import ServiceStubs.Name

/-!
# The words of a segment

`PascalCase` is made in one pass that remembers whether a separator came last. Here the words of a
segment are said on their own, as its longest runs without a separator, and the pass is shown to
capitalize one word after another. This holds for all characters, also for those whose upper case is
longer than one character. The main result is `camelize_capitalizes_words`.
-/

namespace ServiceStubs.Name

/-- What stands between separators, in order and without empty parts. -/
def words (text : List Char) : List (List Char) :=
  (text.splitOnP isSeparator).filter (· != [])

/-- A longest run without a separator, at one place of a text. -/
structure IsWordAt (text before word after : List Char) : Prop where
  spelled : text = before ++ word ++ after
  nonempty : word ≠ []
  kept : ∀ character ∈ word, isSeparator character = false
  opens : ∀ last ∈ before.getLast?, isSeparator last = true
  closes : ∀ first ∈ after.head?, isSeparator first = true

section Cutting

/-- An empty text has no words. -/
@[simp] theorem words_nil : words [] = [] := by
  simp [words]

/-- No word goes across a separator. -/
theorem words_append_separator {separator : Char} (divides : isSeparator separator = true)
    (left right : List Char) :
    words (left ++ separator :: right) = words left ++ words right := by
  rw [words, List.splitOnP_append_cons left right divides, List.filter_append]
  rfl

/-- Behind a separator a new word starts. -/
theorem words_append_of_opens {before : List Char}
    (opens : ∀ last ∈ before.getLast?, isSeparator last = true) (rest : List Char) :
    words (before ++ rest) = words before ++ words rest := by
  cases ended : before.getLast? with
  | none =>
    rw [List.getLast?_eq_none_iff] at ended
    simp [ended]
  | some last =>
    have divides : isSeparator last = true := opens last ended
    obtain ⟨front, rfl⟩ := List.getLast?_eq_some_iff.mp ended
    rw [List.append_assoc, List.singleton_append, words_append_separator divides,
      words_append_separator divides front [], words_nil, List.append_nil]

/-- Before a separator a word ends. -/
theorem words_append_of_closes {after : List Char}
    (closes : ∀ first ∈ after.head?, isSeparator first = true) (front : List Char) :
    words (front ++ after) = words front ++ words after := by
  cases after with
  | nil => simp
  | cons first others =>
    have divides : isSeparator first = true := closes first rfl
    have skipped : words (first :: others) = words others :=
      words_append_separator divides [] others
    rw [words_append_separator divides, skipped]

/-- A run without a separator is its only word. -/
theorem words_of_kept {word : List Char} (nonempty : word ≠ [])
    (kept : ∀ character ∈ word, isSeparator character = false) : words word = [word] := by
  rw [words, List.splitOnP_eq_singleton kept]
  simp [nonempty]

/-- Separators alone are no words. -/
theorem words_of_separators {gap : List Char}
    (divide : ∀ character ∈ gap, isSeparator character = true) : words gap = [] := by
  induction gap with
  | nil => exact words_nil
  | cons first rest inductionHypothesis =>
    rw [List.forall_mem_cons] at divide
    have skipped : words (first :: rest) = words rest := words_append_separator divide.1 [] rest
    rw [skipped, inductionHypothesis divide.2]

end Cutting

section Runs

variable {text : List Char}

/-- A longest run is a word, and the other words stand on its two sides. -/
theorem IsWordAt.words_eq {before word after : List Char}
    (found : IsWordAt text before word after) :
    words text = words before ++ word :: words after := by
  rw [found.spelled, List.append_assoc, words_append_of_opens found.opens,
    words_append_of_closes found.closes, words_of_kept found.nonempty found.kept]
  rfl

/-- The first word is the longest run behind the leading separators. -/
theorem exists_isWordAt_first {word : List Char} {back : List (List Char)}
    (starts : words text = word :: back) :
    ∃ before after, IsWordAt text before word after ∧ words before = [] ∧ words after = back := by
  have noWords : words (text.takeWhile isSeparator) = [] :=
    words_of_separators fun _ member => List.mem_takeWhile_imp member
  have spelled := List.takeWhile_append_dropWhile (p := isSeparator) (l := text)
  have head := List.head?_dropWhile_not isSeparator text
  cases remaining : text.dropWhile isSeparator with
  | nil =>
    rw [remaining, List.append_nil] at spelled
    rw [spelled, starts] at noWords
    cases noWords
  | cons initial others =>
    rw [remaining] at spelled head
    let run := others.takeWhile fun character => !isSeparator character
    let after := others.dropWhile fun character => !isSeparator character
    have found : IsWordAt text (text.takeWhile isSeparator) (initial :: run) after := {
      spelled := by
        rw [List.append_assoc, List.cons_append, List.takeWhile_append_dropWhile, spelled]
      nonempty := List.cons_ne_nil _ _
      kept := by
        rw [List.forall_mem_cons]
        refine ⟨head, fun character member => ?_⟩
        simpa using List.mem_takeWhile_imp member
      opens := fun last member =>
        List.mem_takeWhile_imp (List.mem_of_getLast? member)
      closes := by
        intro first member
        have stopped := List.head?_dropWhile_not (fun character => !isSeparator character) others
        rw [Option.mem_def] at member
        rw [member] at stopped
        simpa using stopped }
    have cut := found.words_eq
    rw [noWords, List.nil_append, starts] at cut
    obtain ⟨rfl, rfl⟩ := List.cons.inj cut
    exact ⟨_, _, found, noWords, rfl⟩

/-- Behind a word the next one does not start at once. -/
theorem IsWordAt.ne_nil {before word after rest : List Char}
    (found : IsWordAt rest before word after)
    (closed : ∀ first ∈ rest.head?, isSeparator first = true) : before ≠ [] := by
  rintro rfl
  obtain ⟨first, others, rfl⟩ := List.exists_cons_of_ne_nil found.nonempty
  have divides := closed first (by simp [found.spelled])
  rw [found.kept first List.mem_cons_self] at divides
  cases divides

/-- The words of a text are its longest runs, each between the words before it and those behind
it. -/
theorem words_eq_append_iff {front back : List (List Char)} {word : List Char} :
    words text = front ++ word :: back ↔
      ∃ before after, IsWordAt text before word after ∧ words before = front ∧
        words after = back := by
  constructor
  · intro cut
    -- The first word is cut off, and the others are found in what follows it.
    induction front generalizing text with
    | nil => exact exists_isWordAt_first cut
    | cons first front inductionHypothesis =>
      obtain ⟨before, rest, firstFound, noWords, restCut⟩ := exists_isWordAt_first cut
      obtain ⟨gap, after, found, gapWords, afterWords⟩ := inductionHypothesis restCut
      have gapNonempty : gap ≠ [] := found.ne_nil firstFound.closes
      have gapHead : gap.head? = rest.head? := by
        obtain ⟨initial, others, rfl⟩ := List.exists_cons_of_ne_nil gapNonempty
        simp [found.spelled]
      have within : IsWordAt (before ++ first ++ gap) before first gap :=
        ⟨rfl, firstFound.nonempty, firstFound.kept, firstFound.opens, gapHead ▸ firstFound.closes⟩
      refine ⟨before ++ first ++ gap, after, ⟨?_, found.nonempty, found.kept, ?_, found.closes⟩,
        ?_, afterWords⟩
      · rw [firstFound.spelled, found.spelled]
        simp only [List.append_assoc]
      · intro last member
        rw [Option.mem_def, List.getLast?_append_of_ne_nil _ gapNonempty] at member
        exact found.opens last member
      · rw [within.words_eq, noWords, gapWords]
        rfl
  · rintro ⟨before, after, found, rfl, rfl⟩
    exact found.words_eq

end Runs

section Capitalizing

/-- A word with its first character in upper case. -/
def capitalized : List Char → List Char
  | [] => []
  | first :: rest => Text.upper first ++ rest

/-- The pass over a text that is cut at its separators: it capitalizes all parts, or all but the
first one if no separator came last. -/
theorem capitalizeWords_of_splitOnP {text part : List Char} {parts : List (List Char)}
    (cut : text.splitOnP isSeparator = part :: parts) :
    capitalizeWords true text = capitalized part ++ parts.flatMap capitalized ∧
      capitalizeWords false text = part ++ parts.flatMap capitalized := by
  induction text generalizing part parts with
  | nil =>
    rw [List.splitOnP_nil] at cut
    obtain ⟨rfl, rfl⟩ := List.cons.inj cut
    exact ⟨rfl, rfl⟩
  | cons character rest inductionHypothesis =>
    obtain ⟨first, others, restCut⟩ :=
      List.exists_cons_of_ne_nil (List.splitOnP_ne_nil isSeparator rest)
    obtain ⟨restCapitalized, restKept⟩ := inductionHypothesis restCut
    rw [List.splitOnP_cons_eq_if_modifyHead, restCut] at cut
    simp only [capitalizeWords]
    by_cases divides : isSeparator character = true
    · rw [if_pos divides] at cut
      obtain ⟨rfl, rfl⟩ := List.cons.inj cut
      simp [divides, restCapitalized, capitalized]
    · rw [if_neg divides, List.modifyHead_cons] at cut
      obtain ⟨rfl, rfl⟩ := List.cons.inj cut
      simp [divides, restKept, capitalized]

/-- Nothing is written for an empty part. -/
theorem flatMap_capitalized_filter (parts : List (List Char)) :
    (parts.filter (· != [])).flatMap capitalized = parts.flatMap capitalized := by
  induction parts with
  | nil => rfl
  | cons part parts inductionHypothesis =>
    cases part with
    | nil => simpa [capitalized] using inductionHypothesis
    | cons first rest => simp [inductionHypothesis]

/-- The pass capitalizes word by word. -/
theorem capitalizeWords_eq_flatMap_words (text : List Char) :
    capitalizeWords true text = (words text).flatMap capitalized := by
  obtain ⟨part, parts, cut⟩ :=
    List.exists_cons_of_ne_nil (List.splitOnP_ne_nil isSeparator text)
  rw [(capitalizeWords_of_splitOnP cut).1, words, flatMap_capitalized_filter, cut,
    List.flatMap_cons]

/-- Every character other than a separator is written once, in its place, as it is or in upper
case. -/
theorem exists_images (capitalize : Bool) (text : List Char) :
    ∃ images, capitalizeWords capitalize text = images.flatten ∧
      List.Forall₂ (fun character image => image = [character] ∨ image = Text.upper character)
        (text.filter fun character => !isSeparator character) images := by
  induction text generalizing capitalize with
  | nil => exact ⟨[], rfl, .nil⟩
  | cons character rest inductionHypothesis =>
    rw [capitalizeWords]
    split
    · rename_i divides
      obtain ⟨images, written, inOrder⟩ := inductionHypothesis true
      rw [List.filter_cons_of_neg (by simp [divides])]
      exact ⟨images, written, inOrder⟩
    · rename_i kept
      obtain ⟨images, written, inOrder⟩ := inductionHypothesis false
      rw [List.filter_cons_of_pos (by simp [kept]), written]
      split
      · exact ⟨Text.upper character :: images, rfl, .cons (.inr rfl) inOrder⟩
      · exact ⟨[character] :: images, rfl, .cons (.inl rfl) inOrder⟩

/-- A segment in `PascalCase` is its words one after another, each with its first character in upper
case. The words are exactly the longest runs without a separator, in their order. So all characters
other than separators are kept in order, and each is written as it is or in upper case. -/
theorem camelize_capitalizes_words (segment : String) :
    camelize segment = String.ofList ((words segment.toList).flatMap capitalized) ∧
      (∀ front word back, words segment.toList = front ++ word :: back ↔
        ∃ before after, IsWordAt segment.toList before word after ∧ words before = front ∧
          words after = back) ∧
      ∃ images, camelize segment = String.ofList images.flatten ∧
        List.Forall₂ (fun character image => image = [character] ∨ image = Text.upper character)
          (segment.toList.filter fun character => !isSeparator character) images := by
  refine ⟨?_, fun _ _ _ => words_eq_append_iff, ?_⟩
  · rw [camelize, capitalizeWords_eq_flatMap_words]
  · obtain ⟨images, written, inOrder⟩ := exists_images true segment.toList
    exact ⟨images, by rw [camelize, written], inOrder⟩

/-- Separators in front, at the end, repeated and mixed leave no empty word behind. -/
example : words "_-ﬁn--ßa_".toList = ["ﬁn".toList, "ßa".toList] ∧
    camelize "_-ﬁn--ßa_" = "FInSSa" := by decide +kernel

end Capitalizing

end ServiceStubs.Name
