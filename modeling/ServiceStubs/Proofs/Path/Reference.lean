import Mathlib.Data.List.Forall2
import ServiceStubs.Path.Reference
import ServiceStubs.Proofs.Path.Respelling

/-!
# References lead back

A reference is a way from the output directory to a schema file. Followed from the output
directory, it ends at the place of the file, whether the way was found by counting segments, by
comparing places, or is an absolute path. The main result is `references_lead_to_sources`.
-/

namespace ServiceStubs.Path

section Ways

/-- What two lists share is a beginning of both. -/
theorem take_sharedLength (left right : List String) :
    left.take (sharedLength left right) = right.take (sharedLength left right) := by
  fun_induction sharedLength left right with
  | case1 name lefts rights inductionHypothesis => simpa using inductionHypothesis
  | case2 => rfl
  | case3 => rfl

/-- A place shares all of itself with the places below it. -/
theorem sharedLength_append (start rest : List String) :
    sharedLength start (start ++ rest) = start.length := by
  induction start with
  | nil => simp [sharedLength]
  | cons name names inductionHypothesis => simp [sharedLength, inductionHypothesis]

/-- Following the way between two places leads from one to the other. -/
theorem walk_stepsBetween {start target : List String}
    (startNames : ∀ name ∈ start, IsName name) (targetNames : ∀ name ∈ target, IsName name) :
    walk start (stepsBetween start target) = target := by
  let shared := sharedLength start target
  have upwards : ∀ name ∈ start.drop shared, IsName name :=
    fun name member => startNames name (List.mem_of_mem_drop member)
  have downwards : ∀ name ∈ target.drop shared, IsName name :=
    fun name member => targetNames name (List.mem_of_mem_drop member)
  have back : walk start (List.replicate (start.length - shared) "..") = start.take shared := by
    have parents := walk_parents (start.take shared) upwards
    rwa [List.take_append_drop, List.length_drop] at parents
  calc walk start (stepsBetween start target)
    _ = walk (start.take shared) (target.drop shared) := by
      rw [stepsBetween, walk_append, back]
    _ = target.take shared ++ target.drop shared := by
      rw [walk_names _ downwards, take_sharedLength]
    _ = target := List.take_append_drop shared target

/-- The way down to a place below needs no parent step. -/
theorem stepsBetween_below (start rest : List String) :
    stepsBetween start (start ++ rest) = rest := by
  simp [stepsBetween, sharedLength_append]

/-- The segments of a way are parent steps and names. -/
theorem mem_stepsBetween {start target : List String} {step : String}
    (member : step ∈ stepsBetween start target) : step = ".." ∨ step ∈ target := by
  rw [stepsBetween, List.mem_append] at member
  rcases member with up | down
  · exact .inl (List.eq_of_mem_replicate up)
  · exact .inr (List.mem_of_mem_drop down)

/-- Every step between two places is a name or a parent step. -/
theorem stepsBetween_clean {start target : List String}
    (targetNames : ∀ name ∈ target, IsName name) :
    ∀ step ∈ stepsBetween start target, step ≠ "" ∧ '/' ∉ step.toList := by
  intro step member
  rcases mem_stepsBetween member with rfl | member
  · decide
  · exact (targetNames step member).clean

end Ways

/-- The spelling of a way; one without steps stays in place. -/
def spellWay (steps : List String) : String :=
  if steps = [] then "." else Text.joinStrings "/" steps

section Spelling

variable {steps : List String}

/-- A spelled way is relative. -/
theorem isAbsolute_spellWay (clean : ∀ step ∈ steps, step ≠ "" ∧ '/' ∉ step.toList) :
    isAbsolute (spellWay steps) = false := by
  unfold spellWay
  split
  · decide
  · exact isAbsolute_joinStrings clean

/-- Walking along a spelled way is walking along its steps. -/
theorem walk_names_spellWay (clean : ∀ step ∈ steps, step ≠ "" ∧ '/' ∉ step.toList)
    (start : List String) : walk start (names (spellWay steps)) = walk start steps := by
  unfold spellWay
  split
  · rename_i noSteps
    rw [noSteps, walk_nil]
    exact walk_here start
  · rw [names_joinStrings clean]

/-- A way down has as many parts as it passes names. -/
theorem partCount_spellWay (areNames : ∀ name ∈ steps, IsName name) :
    partCount (spellWay steps) = steps.length := by
  have clean : ∀ step ∈ steps, step ≠ "" ∧ '/' ∉ step.toList :=
    fun step member => (areNames step member).clean
  have counted : ((names (spellWay steps)).filter (· != ".")).length = steps.length := by
    unfold spellWay
    split
    · rename_i noSteps
      rw [noSteps]
      decide
    · have noneHere : steps.filter (· != ".") = steps := by
        rw [List.filter_eq_self]
        intro step member
        simpa using (areNames step member).notHere
      rw [names_joinStrings clean, noneHere]
  rw [partCount, counted, isAbsolute_spellWay clean]
  rfl

end Spelling

section Relative

variable {workingDirectory : String}

/-- A path as seen from a start is the spelled way between the two places. -/
theorem relative_eq_spellWay (rooted : isAbsolute workingDirectory = true)
    (path start : String) :
    relative workingDirectory path start =
      spellWay (stepsBetween (place (join workingDirectory start))
        (place (join workingDirectory path))) := by
  unfold relative spellWay
  rw [names_absolute rooted, names_absolute rooted]
  split <;> simp_all

/-- Joining a relative path to its start gives the place of its target. -/
theorem place_join_relative (rooted : isAbsolute workingDirectory = true) {start : String}
    (startRooted : isAbsolute start = true) (path : String) :
    place (join start (relative workingDirectory path start)) =
      place (join workingDirectory path) := by
  let target := place (join workingDirectory path)
  have clean : ∀ step ∈ stepsBetween (place start) target, step ≠ "" ∧ '/' ∉ step.toList :=
    stepsBetween_clean (isName_place _)
  rw [relative_eq_spellWay rooted, join_of_isAbsolute startRooted, place_join,
    isAbsolute_spellWay clean, if_neg (by simp), walk_names_spellWay clean]
  exact walk_stepsBetween (isName_place start) (isName_place _)

end Relative

section Root

variable {workingDirectory root : String}

/-- The test for paths below the root compares spellings; for normalized paths it finds places
below the place of the root. -/
theorem names_of_startsWith {target : String}
    (below : Text.startsWith target (join root "") = true) :
    ∃ rest, names target = names root ++ names rest := by
  obtain ⟨rest, spelled⟩ := List.isPrefixOf_iff_prefix.mp below
  have split : target = join root "" ++ String.ofList rest := by
    rw [← String.toList_inj, ← spelled]
    simp
  refine ⟨String.ofList rest, ?_⟩
  rw [split, join, if_neg (by decide)]
  split
  · rename_i bare
    rcases bare with rfl | trailing
    · simp
    · rw [String.append_empty]
      exact names_append_of_trailing trailing _
  · rw [String.append_empty]
    exact names_append_slash root _

/-- A path as seen from the root is the way down to it, if it lies below, and its absolute
spelling otherwise. -/
theorem withinRoot_cases (rooted : isAbsolute workingDirectory = true)
    (rootRooted : isAbsolute root = true) (normal : names root = place root) (path : String) :
    withinRoot workingDirectory root path = absolute workingDirectory (join root path) ∨
      ∃ down, (∀ name ∈ down, IsName name) ∧ place (join root path) = place root ++ down ∧
        withinRoot workingDirectory root path = spellWay down := by
  let target := absolute workingDirectory (join root path)
  have joinRooted := isAbsolute_join rootRooted path
  have targetRooted : isAbsolute target = true := isAbsolute_absolute rooted _
  have targetNames : names target = place (join root path) := by
    rw [names_absolute rooted, join_of_isAbsolute joinRooted]
  have targetPlace : place target = place (join root path) := by
    rw [place_absolute rooted, join_of_isAbsolute joinRooted]
  by_cases same : target = root
  · right
    refine ⟨[], by simp, ?_, ?_⟩
    · rw [← targetPlace, same, List.append_nil]
    · simp only [withinRoot, spellWay, if_true]
      rw [if_pos same]
  · by_cases below : Text.startsWith target (join root "") = true
    · right
      obtain ⟨rest, split⟩ := names_of_startsWith below
      rw [targetNames, normal] at split
      refine ⟨names rest, ?_, split, ?_⟩
      · intro name member
        apply isName_place (join root path)
        rw [split]
        exact List.mem_append_right _ member
      · have spelled : withinRoot workingDirectory root path =
            relative workingDirectory target root := by
          simp only [withinRoot]
          rw [if_neg same, if_pos below]
        rw [spelled, relative_eq_spellWay rooted, join_of_isAbsolute rootRooted,
          join_of_isAbsolute targetRooted, targetPlace, split, stepsBetween_below]
    · left
      simp only [withinRoot]
      rw [if_neg same, if_neg below]

/-- Seen from the root or not, a path stands for the same place. -/
theorem place_join_withinRoot (rooted : isAbsolute workingDirectory = true)
    (rootRooted : isAbsolute root = true) (normal : names root = place root) (path : String) :
    place (join root (withinRoot workingDirectory root path)) = place (join root path) := by
  rcases withinRoot_cases rooted rootRooted normal path with outside | ⟨down, areNames, lies, way⟩
  · rw [outside, join_of_isAbsolute (isAbsolute_absolute rooted _), place_absolute rooted,
      join_of_isAbsolute (isAbsolute_join rootRooted path)]
  · have clean : ∀ step ∈ down, step ≠ "" ∧ '/' ∉ step.toList :=
      fun step member => (areNames step member).clean
    rw [way, place_join, isAbsolute_spellWay clean, if_neg (by simp),
      walk_names_spellWay clean, walk_names _ areNames, lies]

end Root

section Climbing

/-- Parent steps do not move an absolute path. -/
theorem foldr_join_of_isAbsolute {path : String} (rooted : isAbsolute path = true)
    (count : Nat) : (List.replicate count "..").foldr join path = path := by
  induction count with
  | zero => rfl
  | succ count inductionHypothesis =>
    rw [List.replicate_succ, List.foldr_cons, inductionHypothesis, join_of_isAbsolute rooted]

/-- Parent steps before a relative path keep it relative and are walked first. -/
theorem foldr_join_of_relative {path : String} (relative : isAbsolute path = false)
    (count : Nat) :
    isAbsolute ((List.replicate count "..").foldr join path) = false ∧
      names ((List.replicate count "..").foldr join path) =
        List.replicate count ".." ++ names path := by
  induction count with
  | zero => exact ⟨relative, rfl⟩
  | succ count inductionHypothesis =>
    obtain ⟨restRelative, restNames⟩ := inductionHypothesis
    rw [List.replicate_succ, List.foldr_cons]
    constructor
    · rw [join, if_neg (by simp [restRelative]), if_neg (by decide)]
      simp [isAbsolute]
    · rw [names_join restRelative, restNames]
      rfl

end Climbing

/-- The directory that a run starts from, where an empty root directory counts as none. -/
def startDirectory (workingDirectory : String) (root : Option String) : String :=
  absolute workingDirectory ((root.filter (· != "")).getD workingDirectory)

section References

variable {workingDirectory root : String}

/-- One reference, followed from the output directory, leads to the place of its source. -/
theorem place_join_reference (rooted : isAbsolute workingDirectory = true)
    (rootRooted : isAbsolute root = true) (normal : names root = place root)
    (outputDirectory path : String) :
    place (join (absolute workingDirectory (join root outputDirectory))
        (reference workingDirectory root outputDirectory path)) =
      place (join root path) := by
  let output := absolute workingDirectory (join root outputDirectory)
  have outputRooted : isAbsolute output = true := isAbsolute_absolute rooted _
  have outputPlace : place output = place (join root outputDirectory) := by
    rw [place_absolute rooted, join_of_isAbsolute (isAbsolute_join rootRooted _)]
  change place (join output (reference workingDirectory root outputDirectory path)) = _
  simp only [reference]
  rcases withinRoot_cases rooted rootRooted normal outputDirectory with
    outside | ⟨down, areNames, lies, way⟩
  · -- The output directory lies elsewhere: the way is found by comparing places.
    rw [outside, if_pos outputRooted, place_join_relative rooted outputRooted,
      join_of_isAbsolute (isAbsolute_join rootRooted path)]
  · -- The output directory lies below the root: its names are climbed one by one.
    have clean : ∀ step ∈ down, step ≠ "" ∧ '/' ∉ step.toList :=
      fun step member => (areNames step member).clean
    rw [way, if_neg (by simp [isAbsolute_spellWay clean]), partCount_spellWay areNames]
    have source := place_join_withinRoot rooted rootRooted normal path
    cases sourceRooted : isAbsolute (withinRoot workingDirectory root path) with
    | true =>
      rw [foldr_join_of_isAbsolute sourceRooted, join_of_isAbsolute sourceRooted]
      rw [join_of_isAbsolute sourceRooted] at source
      exact source
    | false =>
      obtain ⟨climbRelative, climbNames⟩ := foldr_join_of_relative sourceRooted down.length
      have climbed : walk (place output) (List.replicate down.length "..") = place root := by
        rw [outputPlace, lies, walk_parents _ areNames]
      rw [place_join, sourceRooted, if_neg (by simp)] at source
      rw [place_join, climbRelative, if_neg (by simp), climbNames, walk_append, climbed, source]

/-- Behind the working directory, nothing means the working directory itself. -/
theorem absolute_empty (rooted : isAbsolute workingDirectory = true) :
    absolute workingDirectory "" = absolute workingDirectory workingDirectory := by
  have emptyPlace : place (join workingDirectory "") = place workingDirectory := by
    rw [place_join, if_neg (by decide), names_empty, walk_nil]
  have emptySlashes : rootSlashes (join workingDirectory "") = rootSlashes workingDirectory :=
    rootSlashes_join workingDirectory (by decide)
  rw [absolute, absolute, join_of_isAbsolute rooted workingDirectory,
    normalize_of_isAbsolute (isAbsolute_join rooted ""), normalize_of_isAbsolute rooted,
    emptyPlace, emptySlashes]

/-- An empty root directory means the working directory. -/
theorem startDirectory_eq (rooted : isAbsolute workingDirectory = true)
    (given : Option String) :
    startDirectory workingDirectory given =
      absolute workingDirectory (given.getD workingDirectory) := by
  cases given with
  | none => rfl
  | some directory =>
    by_cases empty : directory = ""
    · subst empty
      exact (absolute_empty rooted).symm
    · simp [startDirectory, Option.filter, empty]

/-- There is one reference per source, in order, and each leads from the output directory to the
place of its source. -/
theorem references_lead_to_sources (rooted : isAbsolute workingDirectory = true)
    (given : Option String) (outputDirectory : String) (paths : List String) :
    List.Forall₂
      (fun path reference =>
        names (normalize (join (absolute workingDirectory
            (join (startDirectory workingDirectory given) outputDirectory)) reference)) =
          names (absolute workingDirectory
            (join (startDirectory workingDirectory given) path)))
      paths (references workingDirectory given outputDirectory paths) := by
  rw [startDirectory_eq rooted]
  let start := absolute workingDirectory (given.getD workingDirectory)
  have startRooted : isAbsolute start = true := isAbsolute_absolute rooted _
  have normal : names start = place start := by
    rw [names_absolute rooted, place_absolute rooted]
  rw [references, List.forall₂_map_right_iff, List.forall₂_same]
  intro path _
  have outputRooted := isAbsolute_absolute rooted (join start outputDirectory)
  rw [names_normalize (isAbsolute_join outputRooted _), names_absolute rooted,
    join_of_isAbsolute (isAbsolute_join startRooted path)]
  exact place_join_reference rooted startRooted normal outputDirectory path

/-- A root beside the working directory, and an output directory outside of it. -/
theorem references_from_outside :
    references "/work" (some "../project/") "/out/./gen" ["protos//a.proto", "../b.proto", "/"] =
        ["../../project/protos/a.proto", "../../b.proto", "../.."] ∧
      isAbsolute "/work" = true ∧
      List.Forall₂
        (fun path reference =>
          names (normalize (join (absolute "/work"
              (join (startDirectory "/work" (some "../project/")) "/out/./gen")) reference)) =
            names (absolute "/work" (join (startDirectory "/work" (some "../project/")) path)))
        ["protos//a.proto", "../b.proto", "/"]
        (references "/work" (some "../project/") "/out/./gen"
          ["protos//a.proto", "../b.proto", "/"]) :=
  ⟨by decide +kernel, by decide, references_lead_to_sources (by decide) _ _ _⟩

end References

end ServiceStubs.Path
