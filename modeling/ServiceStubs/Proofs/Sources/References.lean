import ServiceStubs.Proofs.Path.Reference
import ServiceStubs.Proofs.Sources.Finding

/-!
# References to the sources of a selection

The sources of a selection are spelled as they were found: behind the root directory, which may
itself be spelled from the working directory. A reference takes them from the root once more. This
module says where the references lead, and that this is where the sources are if the root is
absolute or is the working directory. That the sources exist is not said here.
-/

namespace ServiceStubs

namespace Path

section Leading

variable {workingDirectory : String}

/-- The names of the place that a reference leads to from the output directory. -/
def referenced (workingDirectory root outputDirectory reference : String) : List String :=
  names (normalize (join (absolute workingDirectory (join root outputDirectory)) reference))

/-- A reference leads to its source as seen from the root, however the root is spelled. -/
theorem referenced_reference (rooted : isAbsolute workingDirectory = true)
    (root outputDirectory path : String) :
    referenced workingDirectory root outputDirectory
        (reference workingDirectory (absolute workingDirectory root) outputDirectory path) =
      place (join (absolute workingDirectory root) path) := by
  let start := absolute workingDirectory root
  have startRooted : isAbsolute start = true := isAbsolute_absolute rooted root
  have normal : names start = place start := by
    rw [names_absolute rooted, place_absolute rooted]
  have sameOutput : place (absolute workingDirectory (join root outputDirectory)) =
      place (absolute workingDirectory (join start outputDirectory)) := by
    rw [place_absolute rooted, place_absolute rooted, place_join_join,
      join_of_isAbsolute (isAbsolute_join startRooted _)]
    exact place_join_congr (place_absolute rooted root).symm outputDirectory
  rw [referenced, names_normalize (isAbsolute_join (isAbsolute_absolute rooted _) _),
    place_join_congr sameOutput]
  exact place_join_reference rooted startRooted normal outputDirectory path

end Leading

end Path

namespace Pattern.Search

open ServiceStubs.Path

variable {search : Search} {found : String}

/-- Whatever matches an absolute pattern is spelled as an absolute path. -/
theorem isAbsolute_of_mem_expandUpTo {depth : Nat} {directoriesOnly : Bool} {pattern : String}
    (rooted : isAbsolute pattern = true)
    (member : found ∈ search.expandUpTo depth directoriesOnly pattern) :
    isAbsolute found = true := by
  induction depth generalizing pattern directoriesOnly found with
  | zero => cases member
  | succ depth inductionHypothesis =>
    cases wild : hasWildcard pattern with
    | false =>
      rw [((mem_expandUpTo_of_plain wild).mp member).1]
      exact rooted
    | true =>
      have directoryRooted := (isAbsolute_directory pattern).trans rooted
      obtain ⟨directory, among, name, _, rfl⟩ := (mem_expandUpTo_of_wildcard wild).mp member
      apply isAbsolute_join
      unfold directoriesFor at among
      split at among
      · exact inductionHypothesis directoryRooted among
      · rw [List.mem_singleton.mp among]
        exact directoryRooted

/-- The files that an absolute path or pattern names are spelled as absolute paths. -/
theorem isAbsolute_of_mem_schemaFiles {path : String} (rooted : isAbsolute path = true)
    (member : found ∈ search.schemaFiles path) : isAbsolute found = true := by
  obtain ⟨candidate, schema⟩ := mem_schemaFiles_iff.mp member
  unfold candidates at candidate
  split at candidate
  · split at candidate
    all_goals
      obtain ⟨entry, _, shown⟩ := List.mem_filterMap.mp candidate
      split at shown
      · rw [← Option.some.inj shown]
        exact isAbsolute_join rooted _
      · cases shown
  · exact isAbsolute_of_mem_expandUpTo rooted
      ((mem_expand_iff (ne_empty_of_isSchemaFile schema)).mp candidate)

end Pattern.Search

namespace Selection

open ServiceStubs.Path

variable {selection : Selection} {tree : FileTree} {workingDirectory root : String}

/-- An absolute root makes all sources absolute. -/
theorem isAbsolute_of_mem_sources (rootRooted : isAbsolute root = true) {path : String}
    (member : path ∈ selection.sources tree workingDirectory root) : isAbsolute path = true := by
  obtain ⟨given, _, named⟩ := List.mem_flatMap.mp (mem_namedFiles_of_mem_sources member)
  exact Pattern.Search.isAbsolute_of_mem_schemaFiles (isAbsolute_join rootRooted given) named

/-- The references of the sources of a selection lead to the sources as seen from the root. So a
reference finds its source exactly if the source is spelled as an absolute path, or its names lead
to one place from the root and from the working directory; for names that only lead down this means
that the root is the working directory. All references find their sources if the root is absolute
or is the working directory. -/
theorem references_of_sources (rooted : isAbsolute workingDirectory = true)
    (selection : Selection) (tree : FileTree) (root outputDirectory : String) :
    List.Forall₂
      (fun path reference =>
        referenced workingDirectory root outputDirectory reference =
          names (absolute workingDirectory (join (absolute workingDirectory root) path)) ∧
        (referenced workingDirectory root outputDirectory reference =
            names (absolute workingDirectory path) ↔
          isAbsolute path = true ∨
            walk (place (absolute workingDirectory root)) (names path) =
              walk (place workingDirectory) (names path)) ∧
        (isAbsolute path = false → (∀ name ∈ names path, IsName name) →
          (referenced workingDirectory root outputDirectory reference =
              names (absolute workingDirectory path) ↔
            place (absolute workingDirectory root) = place workingDirectory)))
      (selection.sources tree workingDirectory root)
      (references workingDirectory (some root) outputDirectory
        (selection.sources tree workingDirectory root)) ∧
    (isAbsolute root = true ∨ place (absolute workingDirectory root) = place workingDirectory →
      List.Forall₂
        (fun path reference =>
          referenced workingDirectory root outputDirectory reference =
            names (absolute workingDirectory path))
        (selection.sources tree workingDirectory root)
        (references workingDirectory (some root) outputDirectory
          (selection.sources tree workingDirectory root))) := by
  have finds : ∀ path, referenced workingDirectory root outputDirectory
      (reference workingDirectory (absolute workingDirectory root) outputDirectory path) =
        names (absolute workingDirectory path) ↔
      isAbsolute path = true ∨ walk (place (absolute workingDirectory root)) (names path) =
        walk (place workingDirectory) (names path) := by
    intro path
    rw [referenced_reference rooted, names_absolute rooted, place_join_eq_iff]
  simp only [references, Option.getD_some, List.forall₂_map_right_iff, List.forall₂_same]
  constructor
  · intro path _
    have startRooted := isAbsolute_absolute rooted root
    refine ⟨?_, finds path, ?_⟩
    · rw [referenced_reference rooted, names_absolute rooted,
        join_of_isAbsolute (isAbsolute_join startRooted path)]
    · intro relative areNames
      rw [finds path, relative, walk_eq_iff_of_names areNames]
      simp
  · rintro (rootRooted | atWorkingDirectory) path member
    · exact (finds path).mpr (.inl (isAbsolute_of_mem_sources rootRooted member))
    · exact (finds path).mpr (.inr (by rw [atWorkingDirectory]))

/-- A project with one schema file in a directory. -/
def nestedProject : FileTree :=
  ⟨[(["p"], .directory), (["p", "sub"], .directory), (["p", "sub", "a.proto"], .file [])]⟩

/-- The schema file of this name in the root directory. -/
def namedSelection : Selection where
  paths := ["a.proto"]

/-- An absolute root: the reference finds the source. -/
theorem references_from_absolute_root :
    namedSelection.sources nestedProject "/p" "/p/sub" = ["/p/sub/a.proto"] ∧
      references "/p" (some "/p/sub") "out" ["/p/sub/a.proto"] = ["../a.proto"] ∧
      isAbsolute "/p" = true ∧ isAbsolute "/p/sub" = true ∧
      List.Forall₂
        (fun path reference =>
          referenced "/p" "/p/sub" "out" reference = names (absolute "/p" path))
        (namedSelection.sources nestedProject "/p" "/p/sub")
        (references "/p" (some "/p/sub") "out"
          (namedSelection.sources nestedProject "/p" "/p/sub")) :=
  ⟨by decide +kernel, by decide +kernel, by decide, by decide,
    (references_of_sources (by decide) namedSelection nestedProject "/p/sub" "out").2
      (.inl (by decide))⟩

/-- A relative root is gone through twice, so the reference misses the source. -/
theorem references_from_relative_root_miss :
    namedSelection.sources nestedProject "/p" "sub" = ["sub/a.proto"] ∧
      references "/p" (some "sub") "out" ["sub/a.proto"] = ["../sub/a.proto"] ∧
      referenced "/p" "sub" "out" "../sub/a.proto" = ["p", "sub", "sub", "a.proto"] ∧
      names (absolute "/p" "sub/a.proto") = ["p", "sub", "a.proto"] ∧
      ¬ List.Forall₂
        (fun path reference =>
          referenced "/p" "sub" "out" reference = names (absolute "/p" path))
        (namedSelection.sources nestedProject "/p" "sub")
        (references "/p" (some "sub") "out"
          (namedSelection.sources nestedProject "/p" "sub")) := by
  have found : namedSelection.sources nestedProject "/p" "sub" = ["sub/a.proto"] := by
    decide +kernel
  have spelled : references "/p" (some "sub") "out" ["sub/a.proto"] = ["../sub/a.proto"] := by
    decide +kernel
  have leads : referenced "/p" "sub" "out" "../sub/a.proto" = ["p", "sub", "sub", "a.proto"] := by
    decide +kernel
  have lies : names (absolute "/p" "sub/a.proto") = ["p", "sub", "a.proto"] := by decide +kernel
  refine ⟨found, spelled, leads, lies, ?_⟩
  rw [found, spelled, List.forall₂_cons, leads, lies]
  rintro ⟨same, _⟩
  exact absurd same (by decide)

end Selection

end ServiceStubs
