import ServiceStubs.Proofs.Path.Reference

/-!
# What lies below the root

Whether a path lies below the root is tested on spellings: the path is the root, or it starts with
the root and a slash. For normalized paths with one leading slash the test compares names, so that a
sibling whose name only starts alike lies outside. A path below the root is then shown by the names
that lead down to it, any other path by its absolute spelling. The main result is
`withinRoot_compares_names`.
-/

namespace ServiceStubs.Path

section Slashes

/-- A normalized path keeps as many leading slashes as are kept of the path. -/
theorem rootSlashes_normalize {path : String} (rooted : isAbsolute path = true) :
    rootSlashes (normalize path) = rootSlashes path := by
  have relative : isAbsolute (Text.joinStrings "/" (place path)) = false :=
    isAbsolute_joinStrings fun name member => (isName_place path name member).clean
  have kept : rootSlashes path = 1 ∨ rootSlashes path = 2 := by
    have slashes := rootSlashes_ne_zero rooted
    unfold rootSlashes at slashes ⊢
    split <;> simp_all
  rw [normalize_of_isAbsolute rooted, rootSlashes_append (.inl relative)]
  rcases kept with one | two
  · rw [one]
    decide
  · rw [two]
    decide

/-- An absolute path without a second slash keeps its one slash. -/
theorem rootSlashes_of_single {path : String} (rooted : isAbsolute path = true)
    (single : Text.startsWith path "//" = false) : rootSlashes path = 1 := by
  unfold isAbsolute at rooted
  unfold Text.startsWith at single
  unfold rootSlashes
  cases spelled : path.toList with
  | nil => simp [spelled] at rooted
  | cons first rest =>
    have slash : first = '/' := by simpa [spelled] using rooted
    subst slash
    cases rest with
    | nil => rfl
    | cons second others =>
      have notSlash : second ≠ '/' := by
        rintro rfl
        simp [spelled] at single
      simp [notSlash]

/-- The spelling of a normalized path with one leading slash. -/
theorem normalize_of_single {path : String} (rooted : isAbsolute path = true)
    (single : rootSlashes path = 1) :
    normalize path = "/" ++ Text.joinStrings "/" (place path) := by
  rw [normalize_of_isAbsolute rooted, single]
  rfl

end Slashes

section Ways

variable {down : List String}

/-- Names are only put behind each other, below the root as well as in a relative path. -/
theorem collapse_of_names (rooted : Bool) (areNames : ∀ name ∈ down, IsName name) :
    collapse rooted down = down := by
  have pushed : ∀ reversed,
      down.foldl (pushSegment rooted) reversed = down.reverse ++ reversed := by
    induction down with
    | nil => simp
    | cons name rest inductionHypothesis =>
      intro reversed
      rw [List.forall_mem_cons] at areNames
      have added : pushSegment rooted reversed name = name :: reversed := by
        simp [pushSegment, areNames.1.nonempty, areNames.1.notHere, areNames.1.notParent]
      rw [List.foldl_cons, added, inductionHypothesis areNames.2]
      simp
  rw [collapse, pushed, List.append_nil, List.reverse_reverse]

/-- A way that only leads down is normalized. -/
theorem normalize_spellWay (areNames : ∀ name ∈ down, IsName name) :
    normalize (spellWay down) = spellWay down := by
  have clean : ∀ step ∈ down, step ≠ "" ∧ '/' ∉ step.toList :=
    fun step member => (areNames step member).clean
  by_cases stays : down = []
  · rw [stays]
    decide
  · have noSlashes : rootSlashes (Text.joinStrings "/" down) = 0 := by
      have relative := isAbsolute_joinStrings clean
      by_contra slashes
      rw [isAbsolute_iff_rootSlashes.mpr slashes] at relative
      cases relative
    have cut : segments (Text.joinStrings "/" down) = down :=
      Text.splitString_joinStrings stays fun step member => (clean step member).2
    have named : Text.joinStrings "/" down ≠ "" := by
      intro empty
      have noNames := names_joinStrings clean
      rw [empty, names_empty] at noNames
      exact stays noNames.symm
    rw [spellWay, if_neg stays, normalize, noSlashes, cut, collapse_of_names _ areNames]
    simp [named]

/-- A way down has no parent step. -/
theorem parent_not_mem_names_spellWay (areNames : ∀ name ∈ down, IsName name) :
    ".." ∉ names (spellWay down) := by
  unfold spellWay
  split
  · decide
  · rw [names_joinStrings fun step member => (areNames step member).clean]
    exact fun member => (areNames ".." member).notParent rfl

end Ways

section Below

variable {workingDirectory root path : String}

/-- An absolute path is not seen from anywhere. -/
theorem absolute_of_isAbsolute (rooted : isAbsolute path = true) :
    absolute workingDirectory path = normalize path := by
  rw [absolute, join_of_isAbsolute rooted]

/-- The way between two absolute paths does not depend on the working directory. -/
theorem relative_of_isAbsolute (pathRooted : isAbsolute path = true)
    (rootRooted : isAbsolute root = true) :
    relative workingDirectory path root = spellWay (stepsBetween (place root) (place path)) := by
  have elsewhere : relative workingDirectory path root = relative "/" path root := by
    unfold relative
    rw [absolute_of_isAbsolute pathRooted, absolute_of_isAbsolute rootRooted,
      absolute_of_isAbsolute pathRooted, absolute_of_isAbsolute rootRooted]
  rw [elsewhere, relative_eq_spellWay (by decide), join_of_isAbsolute pathRooted,
    join_of_isAbsolute rootRooted]

/-- A path starts with its directory, with or without the slash between them. -/
theorem startsWith_join_empty (base rest : String) :
    Text.startsWith (base ++ "/" ++ rest) (join base "") = true := by
  rw [Text.startsWith_iff, join, if_neg (by decide)]
  split
  · exact ⟨"/" ++ rest, by rw [String.append_empty, String.append_assoc]⟩
  · exact ⟨rest, by rw [String.append_empty]⟩

/-- The spelling of a place below another one starts with the spelling of that one and a slash. -/
theorem startsWith_below (start : List String) {down : List String} (nonempty : down ≠ []) :
    Text.startsWith ("/" ++ Text.joinStrings "/" (start ++ down))
      (join ("/" ++ Text.joinStrings "/" start) "") = true := by
  by_cases atRoot : start = []
  · -- The root ends in its slash already, so that no second one is asked for.
    rw [atRoot, Text.startsWith_iff]
    exact ⟨Text.joinStrings "/" down, rfl⟩
  · rw [Text.joinStrings_append "/" atRoot nonempty, ← String.append_assoc, ← String.append_assoc]
    exact startsWith_join_empty _ _

/-- A path below the root is shown by the names that lead down to it. -/
theorem withinRoot_of_below (rooted : isAbsolute root = true) (normal : normalize root = root)
    (rootSlash : rootSlashes root = 1) (slash : rootSlashes (join root path) = 1)
    {down : List String} (lies : place (join root path) = place root ++ down) :
    withinRoot workingDirectory root path = spellWay down := by
  have joinRooted := isAbsolute_join rooted path
  have rootSpelled : root = "/" ++ Text.joinStrings "/" (place root) := by
    rw [← normalize_of_single rooted rootSlash, normal]
  have targetSpelled := normalize_of_single joinRooted slash
  rw [lies] at targetSpelled
  simp only [withinRoot, absolute_of_isAbsolute joinRooted]
  by_cases stays : down = []
  · rw [if_pos (by rw [targetSpelled, stays, List.append_nil, ← rootSpelled]), stays]
    rfl
  · have notRoot : normalize (join root path) ≠ root := by
      intro same
      have samePlace := place_normalize joinRooted
      rw [same, lies] at samePlace
      exact stays (List.self_eq_append_right.mp samePlace)
    have below : Text.startsWith (normalize (join root path)) (join root "") = true := by
      have starts := startsWith_below (place root) stays
      rwa [← targetSpelled, ← rootSpelled] at starts
    rw [if_neg notRoot, if_pos below,
      relative_of_isAbsolute (isAbsolute_normalize joinRooted) rooted,
      place_normalize joinRooted, lies, stepsBetween_below]

/-- A path elsewhere is shown by its absolute spelling. -/
theorem withinRoot_of_outside (rooted : isAbsolute root = true)
    (outside : ¬ names root <+: names (normalize (join root path))) :
    withinRoot workingDirectory root path = normalize (join root path) := by
  have notRoot : normalize (join root path) ≠ root := by
    intro same
    rw [same] at outside
    exact outside List.prefix_rfl
  have notBelow : ¬ Text.startsWith (normalize (join root path)) (join root "") = true := by
    intro below
    obtain ⟨rest, split⟩ := names_of_startsWith below
    exact outside ⟨names rest, split.symm⟩
  simp only [withinRoot, absolute_of_isAbsolute (isAbsolute_join rooted path)]
  rw [if_neg notRoot, if_neg notBelow]

end Below

/-- A normalized way from the root to a target below it, with one part for each name on it. -/
structure IsWayDown (root target way : String) : Prop where
  relative : isAbsolute way = false
  normal : normalize way = way
  noParent : ".." ∉ names way
  counted : partCount way + (names root).length = (names target).length
  leads : normalize (join root way) = target

section Containment

variable {workingDirectory root path : String}

/-- The names that lead down from the root spell the way to a path below it. -/
theorem isWayDown_spellWay (rooted : isAbsolute root = true) (normal : normalize root = root)
    (rootSlash : rootSlashes root = 1) (slash : rootSlashes (join root path) = 1)
    {down : List String} (areNames : ∀ name ∈ down, IsName name)
    (lies : place (join root path) = place root ++ down) :
    IsWayDown root (normalize (join root path)) (spellWay down) := by
  have joinRooted := isAbsolute_join rooted path
  have clean : ∀ step ∈ down, step ≠ "" ∧ '/' ∉ step.toList :=
    fun step member => (areNames step member).clean
  have relative := isAbsolute_spellWay clean
  have rootNames : names root = place root := by rw [← names_normalize rooted, normal]
  refine ⟨relative, normalize_spellWay areNames, parent_not_mem_names_spellWay areNames, ?_, ?_⟩
  · rw [partCount_spellWay areNames, names_normalize joinRooted, rootNames, lies,
      List.length_append, Nat.add_comm]
  · have sameSlash : rootSlashes (join root (spellWay down)) = 1 := by
      rw [rootSlashes_join root relative, rootSlash]
    have samePlace : place (join root (spellWay down)) = place (join root path) := by
      rw [place_join, relative, if_neg (by simp), walk_names_spellWay clean,
        walk_names _ areNames, lies]
    rw [normalize_of_single (isAbsolute_join rooted _) sameSlash,
      normalize_of_single joinRooted slash, samePlace]

/-- Seen from a normalized root with one leading slash, a path is relative exactly if the names of
the root are the first names of the absolute path. It is then a normalized way down to that path,
and otherwise it is that path. -/
theorem withinRoot_compares_names (rooted : isAbsolute root = true)
    (normal : normalize root = root) (rootSingle : Text.startsWith root "//" = false)
    (single : Text.startsWith (absolute workingDirectory (join root path)) "//" = false) :
    (isAbsolute (withinRoot workingDirectory root path) = false ↔
      names root <+: names (absolute workingDirectory (join root path))) ∧
      (isAbsolute (withinRoot workingDirectory root path) = false →
        IsWayDown root (absolute workingDirectory (join root path))
          (withinRoot workingDirectory root path)) ∧
      (isAbsolute (withinRoot workingDirectory root path) = true →
        withinRoot workingDirectory root path = absolute workingDirectory (join root path)) := by
  have joinRooted := isAbsolute_join rooted path
  rw [absolute_of_isAbsolute joinRooted] at single ⊢
  have targetRooted := isAbsolute_normalize joinRooted
  have rootSlash := rootSlashes_of_single rooted rootSingle
  have slash : rootSlashes (join root path) = 1 := by
    rw [← rootSlashes_normalize joinRooted, rootSlashes_of_single targetRooted single]
  by_cases below : names root <+: names (normalize (join root path))
  · have ⟨down, split⟩ := below
    have lies : place (join root path) = place root ++ down := by
      rw [← names_normalize joinRooted, ← split, ← names_normalize rooted, normal]
    have areNames : ∀ name ∈ down, IsName name := by
      intro name member
      apply isName_place (join root path)
      rw [lies]
      exact List.mem_append_right _ member
    have way : IsWayDown root (normalize (join root path)) (spellWay down) :=
      isWayDown_spellWay rooted normal rootSlash slash areNames lies
    rw [withinRoot_of_below rooted normal rootSlash slash lies]
    refine ⟨iff_of_true way.relative below, fun _ => way, fun isRooted => ?_⟩
    rw [way.relative] at isRooted
    cases isRooted
  · rw [withinRoot_of_outside rooted below, targetRooted]
    exact ⟨iff_of_false (by simp) below, fun relative => (nomatch relative), fun _ => rfl⟩

/-- A way that leaves the root and comes back leads below it. A sibling whose name only starts alike
lies outside. -/
theorem withinRoot_compares_names_of_siblings :
    IsWayDown "/srv/a" "/srv/a/c" (withinRoot "/" "/srv/a" "b/../../a/./c") ∧
      withinRoot "/" "/srv/a" "../ab/c" = "/srv/ab/c" := by
  have inside : absolute "/" (join "/srv/a" "b/../../a/./c") = "/srv/a/c" := by decide
  have outside : absolute "/" (join "/srv/a" "../ab/c") = "/srv/ab/c" := by decide
  have below := @withinRoot_compares_names "/" "/srv/a" "b/../../a/./c" (by decide)
    (by decide) (by decide) (by decide)
  have apart := @withinRoot_compares_names "/" "/srv/a" "../ab/c" (by decide)
    (by decide) (by decide) (by decide)
  have shown : isAbsolute (withinRoot "/" "/srv/a" "b/../../a/./c") = false ∧
      isAbsolute (withinRoot "/" "/srv/a" "../ab/c") = true := by decide +kernel
  rw [inside] at below
  rw [outside] at apart
  exact ⟨below.2.1 shown.1, apart.2.2 shown.2⟩

end Containment

end ServiceStubs.Path
