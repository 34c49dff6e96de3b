import ServiceStubs.Descriptor
import ServiceStubs.Proofs.Text.Split

/-!
# Laws of relative type names

A complete type name starts with one dot. Behind it, the package of the referring file is taken
away exactly when it is a whole beginning of the name, up to a dot. So a type of the package is
mistaken for a type of another place only if that one is called as the first is within the package.
-/

namespace ServiceStubs.Descriptor

section TypeNames

variable {name package : String}

/-- Only the dot in front of a complete name is dropped. -/
theorem dropWhile_leading_dot (bare : Text.startsWith name "." = false) :
    ("." ++ name).toList.dropWhile (· == '.') = name.toList := by
  rw [String.toList_append]
  cases spelled : name.toList with
  | nil => rfl
  | cons first rest =>
    have notDot : first ≠ '.' := by
      rintro rfl
      simp [Text.startsWith, spelled] at bare
    simp [notDot]

/-- A type of the own package loses the package. -/
theorem relativeTypeName_own {rest : String} (declared : package ≠ "")
    (own : name = package ++ "." ++ rest) (bare : Text.startsWith name "." = false) :
    relativeTypeName ("." ++ name) package false = rest := by
  have inside : (package.toList ++ ['.']).isPrefixOf name.toList = true := by
    rw [List.isPrefixOf_iff_prefix]
    exact ⟨rest.toList, by simp [own]⟩
  simp only [relativeTypeName, dropWhile_leading_dot bare]
  rw [if_pos (by simp [inside, declared])]
  rw [← String.toList_inj, String.toList_ofList, own]
  simp

/-- All other types keep their complete name, without the leading dot. -/
theorem relativeTypeName_foreign {keepPackage : Bool}
    (foreign : keepPackage = true ∨ Text.startsWith name (package ++ ".") = false)
    (bare : Text.startsWith name "." = false) :
    relativeTypeName ("." ++ name) package keepPackage = name := by
  have kept : ¬ (!keepPackage && package != "" &&
      (package.toList ++ ['.']).isPrefixOf name.toList) = true := by
    rcases foreign with kept | apart
    · simp [kept]
    · simp only [Text.startsWith, String.toList_append] at apart
      have apartLists : (package.toList ++ ['.']).isPrefixOf name.toList = false := apart
      simp [apartLists]
  simp only [relativeTypeName, dropWhile_leading_dot bare]
  rw [if_neg kept, String.ofList_toList]

/-- Either the package is taken away and can be put back, or the name does not start with it and is
left alone. -/
theorem relativeTypeName_cases (declared : package ≠ "")
    (bare : Text.startsWith name "." = false) :
    name = package ++ "." ++ relativeTypeName ("." ++ name) package ∨
      Text.startsWith name (package ++ ".") = false ∧
        relativeTypeName ("." ++ name) package = name := by
  cases inside : Text.startsWith name (package ++ ".") with
  | true =>
    obtain ⟨rest, own⟩ := Text.startsWith_iff.mp inside
    left
    rw [relativeTypeName_own declared own bare]
    exact own
  | false => exact .inr ⟨rfl, relativeTypeName_foreign (.inr inside) bare⟩

/-- A package stands before every name that it is taken away from. -/
theorem relativeTypeName_ne_iff (declared : package ≠ "")
    (bare : Text.startsWith name "." = false) :
    relativeTypeName ("." ++ name) package ≠ name ↔
      Text.startsWith name (package ++ ".") = true := by
  constructor
  · intro taken
    rcases relativeTypeName_cases declared bare with own | ⟨_, whole⟩
    · exact Text.startsWith_iff.mpr ⟨_, own⟩
    · exact absurd whole taken
  · intro inside whole
    obtain ⟨rest, own⟩ := Text.startsWith_iff.mp inside
    rw [relativeTypeName_own declared own bare] at whole
    have lengths : rest.toList.length = name.toList.length := by rw [whole]
    rw [own] at lengths
    simp only [String.toList_append, List.length_append] at lengths
    have dot : ".".toList.length = 1 := rfl
    omega

end TypeNames

section Collisions

variable {package left right : String}

/-- A type of the package and a type of another place that is called as the first is within the
package get one name. -/
theorem relativeTypeName_eq_of_within (declared : package ≠ "")
    (leftBare : Text.startsWith left "." = false) (rightBare : Text.startsWith right "." = false)
    (within : left = package ++ "." ++ right)
    (foreign : Text.startsWith right (package ++ ".") = false) :
    relativeTypeName ("." ++ left) package = relativeTypeName ("." ++ right) package := by
  rw [relativeTypeName_own declared within leftBare,
    relativeTypeName_foreign (.inr foreign) rightBare]

/-- No other two types get one name. -/
theorem within_of_relativeTypeName_eq (declared : package ≠ "")
    (leftBare : Text.startsWith left "." = false) (rightBare : Text.startsWith right "." = false)
    (distinct : left ≠ right)
    (meet : relativeTypeName ("." ++ left) package = relativeTypeName ("." ++ right) package) :
    (left = package ++ "." ++ right ∧ Text.startsWith right (package ++ ".") = false) ∨
      (right = package ++ "." ++ left ∧ Text.startsWith left (package ++ ".") = false) := by
  rcases relativeTypeName_cases declared leftBare with leftOwn | ⟨leftForeign, leftWhole⟩
  · rcases relativeTypeName_cases declared rightBare with rightOwn | ⟨rightForeign, rightWhole⟩
    · -- What was taken away from both is the same, so the complete names are.
      rw [meet, ← rightOwn] at leftOwn
      exact absurd leftOwn distinct
    · rw [meet, rightWhole] at leftOwn
      exact .inl ⟨leftOwn, rightForeign⟩
  · rcases relativeTypeName_cases declared rightBare with rightOwn | ⟨_, rightWhole⟩
    · rw [← meet, leftWhole] at rightOwn
      exact .inr ⟨rightOwn, leftForeign⟩
    · rw [leftWhole, rightWhole] at meet
      exact absurd meet distinct

/-- Two types have one relative name exactly if the complete name of one is the package, a dot and
the complete name of the other, which does not start with the package itself. With package names
kept, all names stay apart. Wherever the package is taken away, it can be put back. -/
theorem relative_names_meet_iff (declared : package ≠ "")
    (leftBare : Text.startsWith left "." = false) (rightBare : Text.startsWith right "." = false)
    (distinct : left ≠ right) :
    (relativeTypeName ("." ++ left) package false = relativeTypeName ("." ++ right) package false ↔
      (left = package ++ "." ++ right ∧ Text.startsWith right (package ++ ".") = false) ∨
        (right = package ++ "." ++ left ∧ Text.startsWith left (package ++ ".") = false)) ∧
      relativeTypeName ("." ++ left) package true ≠ relativeTypeName ("." ++ right) package true ∧
      ∀ name, Text.startsWith name "." = false →
        (relativeTypeName ("." ++ name) package false ≠ name ↔
          Text.startsWith name (package ++ ".") = true) ∧
        (relativeTypeName ("." ++ name) package false ≠ name →
          package ++ "." ++ relativeTypeName ("." ++ name) package false = name) := by
  refine ⟨⟨within_of_relativeTypeName_eq declared leftBare rightBare distinct, ?_⟩, ?_, ?_⟩
  · rintro (⟨within, foreign⟩ | ⟨within, foreign⟩)
    · exact relativeTypeName_eq_of_within declared leftBare rightBare within foreign
    · exact (relativeTypeName_eq_of_within declared rightBare leftBare within foreign).symm
  · rw [relativeTypeName_foreign (.inl rfl) leftBare, relativeTypeName_foreign (.inl rfl) rightBare]
    exact distinct
  · intro name bare
    refine ⟨relativeTypeName_ne_iff declared bare, fun taken => ?_⟩
    rcases relativeTypeName_cases declared bare with own | ⟨_, whole⟩
    · exact own.symm
    · exact absurd whole taken

/-- The package `foo` has its own `bar.Q`, which meets that of the package `bar`; a second `foo` in
front keeps the names of the first one apart. -/
theorem relative_names_meet_across_packages :
    relativeTypeName ("." ++ "foo.bar.Q") "foo" = relativeTypeName ("." ++ "bar.Q") "foo" ∧
      relativeTypeName ("." ++ "foo.foo.Q") "foo" ≠ relativeTypeName ("." ++ "foo.Q") "foo" := by
  have meeting := @relative_names_meet_iff "foo" "foo.bar.Q" "bar.Q" (by decide) (by decide)
    (by decide) (by decide)
  have apart := @relative_names_meet_iff "foo" "foo.foo.Q" "foo.Q" (by decide) (by decide)
    (by decide) (by decide)
  exact ⟨meeting.1.mpr (by decide), fun meet => absurd (apart.1.mp meet) (by decide)⟩

end Collisions

end ServiceStubs.Descriptor
