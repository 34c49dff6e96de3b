import ServiceStubs.Proofs.Name

/-!
# Identifiers in canonical form

The canonical form of an identifier drops its underscores, so it may start with any other character
of the identifier. It keeps letters and digits apart, and so its first character tells whether it
is an identifier again. Nothing is said here about names with dots.
-/

namespace ServiceStubs.Name

/-- The characters of identifiers: ASCII letters and digits, and the underscore. -/
def isWordCharacter (character : Char) : Bool :=
  character.isAlphanum || character == '_'

/-- Whether a name is an identifier: it is not empty, consists of word characters and does not
start with a digit. -/
def isIdentifier (name : String) : Bool :=
  name != "" && name.toList.all isWordCharacter && !name.toList.head?.any Char.isDigit

/-- Whether a name starts with a digit once the underscores before it are dropped. -/
def startsWithDigit (name : String) : Bool :=
  (name.toList.dropWhile (· == '_')).head?.any Char.isDigit

/-- Whether a name is in canonical form already: without a separator, and not starting with a small
letter. -/
def isCanonical (name : String) : Bool :=
  name.toList.all (fun character => !isSeparator character) &&
    !name.toList.head?.any Char.isLower

section Characters

/-- An identifier consists of word characters and does not start with a digit. -/
theorem isIdentifier_iff {name : String} :
    isIdentifier name = true ↔ name ≠ "" ∧
      (∀ character ∈ name.toList, isWordCharacter character = true) ∧
      name.toList.head?.any Char.isDigit = false := by
  simp [isIdentifier, and_assoc]

variable {name : String}

/-- An identifier consists of word characters. -/
theorem isWordCharacter_of_isIdentifier (identifier : isIdentifier name = true) {character : Char}
    (member : character ∈ name.toList) : isWordCharacter character = true :=
  (isIdentifier_iff.mp identifier).2.1 character member

/-- Identifiers are plain names. -/
theorem isPlain_of_isIdentifier (identifier : isIdentifier name = true) : isPlain name = true := by
  rw [isPlain_iff]
  intro character member
  have word := isWordCharacter_of_isIdentifier identifier member
  rw [isWordCharacter] at word
  rw [isPlainCharacter, word, Bool.true_or]

/-- A word character that is no separator is a letter or a digit. -/
theorem isAlphanum_of_isWordCharacter {character : Char} (word : isWordCharacter character = true)
    (kept : isSeparator character = false) : character.isAlphanum = true := by
  simp only [isSeparator, Bool.or_eq_false_iff] at kept
  simpa [isWordCharacter, kept.1] using word

/-- The upper case of a letter or a digit is one character, of the same sort. -/
theorem upper_of_isAlphanum {character : Char} (alphanumeric : character.isAlphanum = true) :
    Text.upper character = [character.toUpper] ∧ character.toUpper.isAlphanum = true ∧
      character.toUpper.isDigit = character.isDigit := by
  have ascii : character.toNat < 0x80 :=
    toNat_lt_of_isPlainCharacter (by simp [isPlainCharacter, alphanumeric])
  have known : ∀ code < 0x80, (Char.ofNat code).isAlphanum = true →
      (Char.ofNat code).toUpper.isAlphanum = true ∧
        (Char.ofNat code).toUpper.isDigit = (Char.ofNat code).isDigit := by
    decide
  refine ⟨by rw [Text.upper, if_pos ascii], ?_⟩
  rw [← Char.ofNat_toNat character]
  exact known character.toNat ascii (by rwa [Char.ofNat_toNat])

end Characters

section CanonicalForm

variable {name : String}

/-- An identifier has no dot, so it is one segment. -/
theorem canonical_of_isIdentifier (identifier : isIdentifier name = true) :
    canonical name = camelize name := by
  have noDot : '.' ∉ name.toList := fun member =>
    absurd (isWordCharacter_of_isIdentifier identifier member) (by decide)
  rw [canonical, Text.splitString, Text.splitAt_of_not_mem noDot, List.map_singleton,
    String.ofList_toList, List.map_singleton]
  simp [Text.joinStrings, Text.joinWith]

/-- The canonical form of an identifier consists of letters and digits. -/
theorem isAlphanum_of_mem_camelize (identifier : isIdentifier name = true) {image : Char}
    (member : image ∈ (camelize name).toList) : image.isAlphanum = true := by
  rw [camelize, String.toList_ofList] at member
  obtain ⟨character, source, kept, written⟩ := source_of_mem_capitalizeWords member
  have alphanumeric := isAlphanum_of_isWordCharacter
    (isWordCharacter_of_isIdentifier identifier source) kept
  rcases written with rfl | inUpper
  · exact alphanumeric
  · obtain ⟨single, upperAlphanumeric, _⟩ := upper_of_isAlphanum alphanumeric
    rw [single, List.mem_singleton] at inUpper
    rw [inUpper]
    exact upperAlphanumeric

/-- The canonical form starts with a digit exactly if the name does so behind its underscores. -/
theorem head_capitalizeWords_any_isDigit {text : List Char}
    (words : ∀ character ∈ text, isWordCharacter character = true) :
    (capitalizeWords true text).head?.any Char.isDigit =
      (text.dropWhile (· == '_')).head?.any Char.isDigit := by
  induction text with
  | nil => rfl
  | cons first rest inductionHypothesis =>
    rw [List.forall_mem_cons] at words
    by_cases underscore : first = '_'
    · rw [capitalizeWords, if_pos (by simp [isSeparator, underscore]),
        List.dropWhile_cons_of_pos (by simp [underscore])]
      exact inductionHypothesis words.2
    · have kept : isSeparator first = false := by
        have noHyphen : first ≠ '-' := by
          rintro rfl
          exact absurd words.1 (by decide)
        simp [isSeparator, underscore, noHyphen]
      obtain ⟨single, _, sameSort⟩ :=
        upper_of_isAlphanum (isAlphanum_of_isWordCharacter words.1 kept)
      rw [capitalizeWords, if_neg (by simp [kept]), if_pos rfl, single,
        List.dropWhile_cons_of_neg (by simp [underscore])]
      simpa using sameSort

section Suffix

variable {suffix : String}

/-- A class name consists of word characters. -/
theorem isWordCharacter_of_mem_camelize_append (identifier : isIdentifier name = true)
    (suffixIdentifier : isIdentifier suffix = true) {character : Char}
    (member : character ∈ (camelize name ++ suffix).toList) :
    isWordCharacter character = true := by
  rw [String.toList_append, List.mem_append] at member
  rcases member with inName | inSuffix
  · simp [isWordCharacter, isAlphanum_of_mem_camelize identifier inName]
  · exact isWordCharacter_of_isIdentifier suffixIdentifier inSuffix

/-- A class name is not empty, because its ending is not. -/
theorem camelize_append_ne_empty (suffixIdentifier : isIdentifier suffix = true) :
    camelize name ++ suffix ≠ "" := by
  intro empty
  exact (isIdentifier_iff.mp suffixIdentifier).1 (String.append_eq_empty_iff.mp empty).2

/-- The canonical form of an identifier and a suffix make an identifier exactly if the name does
not start with a digit behind its underscores. -/
theorem isIdentifier_camelize_append_iff (identifier : isIdentifier name = true)
    (suffixIdentifier : isIdentifier suffix = true) :
    isIdentifier (camelize name ++ suffix) = true ↔ startsWithDigit name = false := by
  have start : (camelize name ++ suffix).toList.head?.any Char.isDigit = startsWithDigit name := by
    have digit := head_capitalizeWords_any_isDigit fun _ =>
      isWordCharacter_of_isIdentifier identifier
    rw [startsWithDigit, ← digit, String.toList_append, camelize, String.toList_ofList]
    cases capitalizeWords true name.toList with
    | nil => simpa using (isIdentifier_iff.mp suffixIdentifier).2.2
    | cons first rest => rfl
  rw [isIdentifier_iff, start]
  constructor
  · exact fun holds => holds.2.2
  · intro noDigit
    exact ⟨camelize_append_ne_empty suffixIdentifier,
      fun _ => isWordCharacter_of_mem_camelize_append identifier suffixIdentifier, noDigit⟩

end Suffix

/-- Within a word, nothing changes. -/
theorem capitalizeWords_false {text : List Char}
    (kept : ∀ character ∈ text, isSeparator character = false) :
    capitalizeWords false text = text := by
  induction text with
  | nil => rfl
  | cons first rest inductionHypothesis =>
    rw [List.forall_mem_cons] at kept
    rw [capitalizeWords, if_neg (by simp [kept.1]), if_neg (by simp),
      inductionHypothesis kept.2]

/-- A name in canonical form is its own canonical form. -/
theorem camelize_of_isCanonical (identifier : isIdentifier name = true)
    (canonicalName : isCanonical name = true) : camelize name = name := by
  simp only [isCanonical, Bool.and_eq_true, List.all_eq_true, Bool.not_eq_true'] at canonicalName
  obtain ⟨kept, noSmall⟩ := canonicalName
  rw [camelize, ← String.toList_inj, String.toList_ofList]
  cases spelled : name.toList with
  | nil => rfl
  | cons first rest =>
    rw [spelled, List.forall_mem_cons] at kept
    rw [spelled] at noSmall
    have word : isWordCharacter first = true :=
      isWordCharacter_of_isIdentifier identifier (by simp [spelled])
    have unchanged : first.toUpper = first := by
      have notLower : first.isLower = false := noSmall
      unfold Char.isLower at notLower
      unfold Char.toUpper
      rw [dif_neg]
      simpa using notLower
    rw [capitalizeWords, if_neg (by simp [kept.1]), if_pos rfl,
      (upper_of_isAlphanum (isAlphanum_of_isWordCharacter word kept.1)).1, unchanged,
      capitalizeWords_false kept.2]
    rfl

end CanonicalForm

end ServiceStubs.Name
