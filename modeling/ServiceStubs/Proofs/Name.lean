import ServiceStubs.Name
import ServiceStubs.Proofs.Text.Split

/-!
# Laws of names

The canonical form treats each dotted segment alone, so it commutes with the dot. The top module
of a declared package is the canonical form of that package, whatever the source is called. Plain
names, which need no escaping anywhere, stay plain in all derived forms.
-/

namespace ServiceStubs.Name

/-- The canonical form of a dotted name is found one side of the dot at a time. -/
theorem canonical_dot (left right : String) :
    canonical (left ++ "." ++ right) = canonical left ++ "." ++ canonical right := by
  have cut : Text.splitString '.' (left ++ "." ++ right) =
      Text.splitString '.' left ++ Text.splitString '.' right :=
    Text.splitString_append '.' left right
  have leftParts := Text.splitString_ne_nil '.' left
  have rightParts := Text.splitString_ne_nil '.' right
  rw [canonical, cut, List.map_append,
    Text.joinStrings_append "." (by simpa using leftParts) (by simpa using rightParts)]
  rfl

/-- A declared package names the top module unless a namespace is given. -/
theorem topModule_of_package {package : String} (declared : package ≠ "") (sourceName : String) :
    topModule none (some package) sourceName = canonical package := by
  simp [topModule, declared]

/-- The prefix of a route for a declared package. -/
theorem routePrefix_of_package {package : String} (declared : package ≠ "") :
    routePrefix (some package) = package ++ "." := by
  simp [routePrefix, declared]

/-- The characters of plain names: ASCII letters and digits, the underscore and the dot. -/
def isPlainCharacter (character : Char) : Bool :=
  character.isAlphanum || character == '_' || character == '.'

/-- Whether a name consists of plain characters. -/
def isPlain (name : String) : Bool :=
  name.toList.all isPlainCharacter

section Plain

/-- A plain name consists of plain characters. -/
theorem isPlain_iff {name : String} :
    isPlain name = true ↔ ∀ character ∈ name.toList, isPlainCharacter character = true := by
  simp [isPlain]

/-- A character that is not plain does not occur in a plain name. -/
theorem not_mem_of_isPlain {name : String} {character : Char} (plain : isPlain name = true)
    (special : isPlainCharacter character = false) : character ∉ name.toList := by
  intro member
  have isPlainHere := isPlain_iff.mp plain character member
  simp [special] at isPlainHere

/-- Plain names can be put together. -/
theorem isPlain_append {left right : String} (leftPlain : isPlain left = true)
    (rightPlain : isPlain right = true) : isPlain (left ++ right) = true := by
  simp_all [isPlain]

/-- Plain characters are ASCII characters. -/
theorem toNat_lt_of_isPlainCharacter {character : Char}
    (plain : isPlainCharacter character = true) : character.toNat < 0x80 := by
  unfold isPlainCharacter Char.isAlphanum Char.isAlpha Char.isUpper Char.isLower
    Char.isDigit at plain
  simp only [ge_iff_le, UInt32.le_iff_toNat_le, Bool.or_eq_true, Bool.and_eq_true,
    decide_eq_true_eq, beq_iff_eq] at plain
  rcases plain with (((upper | lower) | digit) | rfl) | rfl
  · exact Nat.lt_of_le_of_lt upper.2 (by decide)
  · exact Nat.lt_of_le_of_lt lower.2 (by decide)
  · exact Nat.lt_of_le_of_lt digit.2 (by decide)
  · decide
  · decide

/-- The upper case of a plain character is plain. -/
theorem isPlainCharacter_of_mem_upper {character image : Char}
    (plain : isPlainCharacter character = true) (member : image ∈ Text.upper character) :
    isPlainCharacter image = true := by
  have ascii := toNat_lt_of_isPlainCharacter plain
  have known : ∀ code < 0x80, isPlainCharacter (Char.ofNat code) = true →
      isPlainCharacter (Char.ofNat code).toUpper = true := by
    decide
  rw [Text.upper, if_pos ascii, List.mem_singleton] at member
  rw [member, ← Char.ofNat_toNat character]
  exact known character.toNat ascii (by rwa [Char.ofNat_toNat])

/-- What is left of some words comes from a character that divides none, as it is or in upper
case. -/
theorem source_of_mem_capitalizeWords {text : List Char} {capitalize : Bool} {image : Char}
    (member : image ∈ capitalizeWords capitalize text) :
    ∃ character ∈ text, isSeparator character = false ∧
      (image = character ∨ image ∈ Text.upper character) := by
  induction text generalizing capitalize with
  | nil => simp [capitalizeWords] at member
  | cons first rest inductionHypothesis =>
    have later : ∀ {flag : Bool}, image ∈ capitalizeWords flag rest →
        ∃ character ∈ first :: rest, isSeparator character = false ∧
          (image = character ∨ image ∈ Text.upper character) := by
      intro flag inRest
      obtain ⟨character, source, written⟩ := inductionHypothesis inRest
      exact ⟨character, List.mem_cons_of_mem _ source, written⟩
    rw [capitalizeWords] at member
    split at member
    · exact later member
    · rename_i kept
      rw [Bool.not_eq_true] at kept
      split at member
      · rcases List.mem_append.mp member with inUpper | inRest
        · exact ⟨first, List.mem_cons_self, kept, .inr inUpper⟩
        · exact later inRest
      · rcases List.mem_cons.mp member with rfl | inRest
        · exact ⟨image, List.mem_cons_self, kept, .inl rfl⟩
        · exact later inRest

/-- What stands in a canonical form is a dot, or comes from a character of the name that divides
no words. -/
theorem source_of_mem_canonical {name : String} {image : Char}
    (member : image ∈ (canonical name).toList) :
    image = '.' ∨ ∃ character ∈ name.toList, isSeparator character = false ∧
      (image = character ∨ image ∈ Text.upper character) := by
  rw [canonical, Text.joinStrings, String.toList_ofList] at member
  rcases Text.mem_joinWith member with inDot | ⟨part, found, inPart⟩
  · exact .inl (List.mem_singleton.mp inDot)
  · simp only [Text.splitString, List.map_map, List.mem_map, Function.comp_apply, camelize,
      String.toList_ofList] at found
    obtain ⟨segment, cut, rfl⟩ := found
    obtain ⟨character, source, written⟩ := source_of_mem_capitalizeWords inPart
    exact .inr ⟨character, Text.mem_of_mem_splitAt cut source, written⟩

/-- The canonical form of a plain name is plain. -/
theorem isPlain_canonical {name : String} (plain : isPlain name = true) :
    isPlain (canonical name) = true := by
  rw [isPlain_iff] at plain ⊢
  intro image member
  rcases source_of_mem_canonical member with rfl | ⟨character, source, _, written⟩
  · decide
  · rcases written with rfl | inUpper
    · exact plain image source
    · exact isPlainCharacter_of_mem_upper (plain character source) inUpper

/-- The attribute of a plain name is plain. -/
theorem isPlain_attributeName {name : String} (plain : isPlain name = true) :
    isPlain (attributeName name) = true := by
  rw [attributeName]
  split
  · exact isPlain_append plain (by decide)
  · exact plain

end Plain

end ServiceStubs.Name
