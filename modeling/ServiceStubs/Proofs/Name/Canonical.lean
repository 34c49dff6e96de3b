import ServiceStubs.Proofs.Name.Identifier
import ServiceStubs.Proofs.Text.Upper

/-!
# The canonical form is final

Putting a name into canonical form leaves nothing to do for a second time: no separator is left, and
every segment starts with a character that is its own upper case. The dots stay where they are, so
the segments of the canonical form belong to those of the name one by one. This holds for all
characters; what is true of identifiers only is not said here.
-/

namespace ServiceStubs.Name

section Segments

/-- Texts that are capitalized already: without a separator, and with a first character that is its
own upper case. -/
structure IsCapitalized (text : List Char) : Prop where
  kept : ∀ character ∈ text, isSeparator character = false
  settled : ∀ first ∈ text.head?, Text.upper first = [first]

/-- A capitalized text stays as it is. -/
theorem IsCapitalized.capitalizeWords_eq {text : List Char} (capitalized : IsCapitalized text) :
    capitalizeWords true text = text := by
  obtain ⟨kept, settled⟩ := capitalized
  cases text with
  | nil => rfl
  | cons first rest =>
    rw [List.forall_mem_cons] at kept
    rw [capitalizeWords, if_neg (by simp [kept.1]), if_pos rfl, settled first rfl,
      capitalizeWords_false kept.2]
    rfl

/-- Upper case makes no mark. -/
theorem eq_of_written {character mark : Char} (ascii : mark.toNat < 0x80)
    (notLetter : mark.isAlpha = false)
    (written : mark = character ∨ mark ∈ Text.upper character) : mark = character := by
  rcases written with same | inUpper
  · exact same
  · exact Text.eq_of_mem_upper ascii notLetter inUpper

/-- What is written for a character that divides no words divides none either. -/
theorem isSeparator_of_written {character image : Char} (kept : isSeparator character = false)
    (written : image = character ∨ image ∈ Text.upper character) : isSeparator image = false := by
  rw [Bool.eq_false_iff]
  intro separates
  have separator : image = '_' ∨ image = '-' := by
    simpa [isSeparator] using separates
  have same : image = character := by
    rcases separator with rfl | rfl
    · exact eq_of_written (by decide) (by decide) written
    · exact eq_of_written (by decide) (by decide) written
  rw [same, kept] at separates
  cases separates

/-- Capitalizing words leaves no separator. -/
theorem isSeparator_of_mem_capitalizeWords {text : List Char} {capitalize : Bool} {image : Char}
    (member : image ∈ capitalizeWords capitalize text) : isSeparator image = false := by
  obtain ⟨_, _, kept, written⟩ := source_of_mem_capitalizeWords member
  exact isSeparator_of_written kept written

/-- The first character behind all leading separators is put into upper case, and the image starts
with a character that stays. -/
theorem isCapitalized_capitalizeWords (text : List Char) :
    IsCapitalized (capitalizeWords true text) := by
  refine ⟨fun _ => isSeparator_of_mem_capitalizeWords, ?_⟩
  induction text with
  | nil => simp [capitalizeWords]
  | cons character rest inductionHypothesis =>
    rw [capitalizeWords]
    split
    · exact inductionHypothesis
    · obtain ⟨first, others, image, settled⟩ := Text.exists_upper_eq_cons character
      rw [if_pos rfl, image]
      simpa using settled

/-- A name in camel case stays as it is. -/
theorem camelize_camelize (segment : String) : camelize (camelize segment) = camelize segment := by
  rw [camelize, camelize, String.toList_ofList,
    (isCapitalized_capitalizeWords segment.toList).capitalizeWords_eq]

end Segments

section DottedNames

/-- The segments of the canonical form are the segments of the name in `PascalCase`. -/
theorem splitString_canonical (name : String) :
    Text.splitString '.' (canonical name) = (Text.splitString '.' name).map camelize := by
  refine Text.splitString_joinStrings (by simp [Text.splitString_ne_nil]) ?_
  intro part member dot
  obtain ⟨segment, cut, rfl⟩ := List.mem_map.mp member
  rw [camelize, String.toList_ofList] at dot
  obtain ⟨character, source, _, written⟩ := source_of_mem_capitalizeWords dot
  rw [← eq_of_written (by decide) (by decide) written] at source
  exact Text.not_mem_of_mem_splitString cut source

/-- Every segment of a name stays a segment. -/
theorem count_canonical (name : String) :
    (canonical name).toList.count '.' = name.toList.count '.' := by
  have segments := congrArg List.length (splitString_canonical name)
  simp only [Text.splitString, List.length_map, Text.length_splitAt] at segments
  exact Nat.succ.inj segments

/-- A canonical name holds no separator. -/
theorem isSeparator_of_mem_canonical {name : String} {image : Char}
    (member : image ∈ (canonical name).toList) : isSeparator image = false := by
  rcases source_of_mem_canonical member with rfl | ⟨_, _, kept, written⟩
  · decide
  · exact isSeparator_of_written kept written

/-- A mark in the canonical form of a name stands in the name, unless it is a dot. -/
theorem mem_of_mem_canonical {name : String} {mark : Char} (ascii : mark.toNat < 0x80)
    (notLetter : mark.isAlpha = false) (notDot : mark ≠ '.')
    (member : mark ∈ (canonical name).toList) : mark ∈ name.toList := by
  rcases source_of_mem_canonical member with dot | ⟨character, source, _, written⟩
  · exact absurd dot notDot
  · rwa [eq_of_written ascii notLetter written]

/-- The canonical form is its own canonical form. It is found one side of a dot at a time, its
segments are those of the name in `PascalCase`, and it has as many dots as the name but neither
underscores nor hyphens. -/
theorem canonical_is_final_and_dotted :
    (∀ name, canonical (canonical name) = canonical name) ∧
      (∀ left right,
        canonical (left ++ "." ++ right) = canonical left ++ "." ++ canonical right) ∧
      ∀ name, Text.splitString '.' (canonical name) = (Text.splitString '.' name).map camelize ∧
        (canonical name).toList.count '.' = name.toList.count '.' ∧
        '_' ∉ (canonical name).toList ∧ '-' ∉ (canonical name).toList := by
  refine ⟨fun name => ?_, canonical_dot, fun name => ?_⟩
  · have camelizedTwice : camelize ∘ camelize = camelize := funext camelize_camelize
    rw [canonical, splitString_canonical, List.map_map, camelizedTwice]
    rfl
  · refine ⟨splitString_canonical name, count_canonical name, fun underscore => ?_,
      fun hyphen => ?_⟩
    · exact absurd (isSeparator_of_mem_canonical underscore) (by decide)
    · exact absurd (isSeparator_of_mem_canonical hyphen) (by decide)

/-- Upper case may make several characters of one, and only the first of them has to stay. -/
example : canonical "ǆ_a.-ŉb" = "ǄA.ʼNb" ∧ canonical "ᾳ.ﬁn" = "ΑΙ.FIn" := by decide +kernel

end DottedNames

end ServiceStubs.Name
