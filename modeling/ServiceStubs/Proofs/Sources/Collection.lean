import Mathlib.Tactic.Tauto
import ServiceStubs.Sources

/-!
# What a selection collects

The sources of a selection are the first ways to the files that it names. This module says what is
kept of a list of paths, and how the sources change when expressions are added: paths add what is
new, excludes only take away. What an expression matches is not opened here.
-/

namespace ServiceStubs

section FirstWays

variable {workingDirectory : String} {taken : List String}

/-- The sources stand in the order in which they are named. -/
theorem withoutRepeats_sublist (workingDirectory : String) (taken paths : List String) :
    (withoutRepeats workingDirectory taken paths).Sublist paths := by
  induction paths generalizing taken with
  | nil => exact .slnil
  | cons path others inductionHypothesis =>
    rw [withoutRepeats]
    split
    · exact .cons path (inductionHypothesis taken)
    · exact .cons_cons path (inductionHypothesis _)

/-- Only membership among the taken paths counts. -/
theorem withoutRepeats_congr {other : List String}
    (same : ∀ target, target ∈ taken ↔ target ∈ other) (paths : List String) :
    withoutRepeats workingDirectory taken paths = withoutRepeats workingDirectory other paths := by
  induction paths generalizing taken other with
  | nil => rfl
  | cons path others inductionHypothesis =>
    have sameTest : taken.contains (Path.absolute workingDirectory path) =
        other.contains (Path.absolute workingDirectory path) := by
      rw [Bool.eq_iff_iff, List.contains_iff_mem, List.contains_iff_mem, same]
    have sameLater : ∀ target, target ∈ Path.absolute workingDirectory path :: taken ↔
        target ∈ Path.absolute workingDirectory path :: other := by
      intro target
      rw [List.mem_cons, List.mem_cons, same]
    rw [withoutRepeats, withoutRepeats, sameTest, inductionHypothesis same,
      inductionHypothesis sameLater]

/-- Every place that is named and not taken is kept, and no other one. -/
theorem mem_map_withoutRepeats_iff {paths : List String} {target : String} :
    target ∈ (withoutRepeats workingDirectory taken paths).map (Path.absolute workingDirectory) ↔
      target ∈ paths.map (Path.absolute workingDirectory) ∧ target ∉ taken := by
  induction paths generalizing taken with
  | nil => simp [withoutRepeats]
  | cons path others inductionHypothesis =>
    rw [withoutRepeats]
    split
    · rename_i isTaken
      rw [List.contains_iff_mem] at isTaken
      rw [inductionHypothesis, List.map_cons, List.mem_cons]
      constructor
      · rintro ⟨named, free⟩
        exact ⟨.inr named, free⟩
      · rintro ⟨here | named, free⟩
        · exact absurd isTaken (here ▸ free)
        · exact ⟨named, free⟩
    · rename_i isFree
      rw [List.contains_iff_mem] at isFree
      rw [List.map_cons, List.mem_cons, inductionHypothesis, List.map_cons, List.mem_cons,
        List.mem_cons, not_or]
      constructor
      · rintro (here | ⟨named, _, free⟩)
        · exact ⟨.inl here, here ▸ isFree⟩
        · exact ⟨.inr named, free⟩
      · rintro ⟨here | named, free⟩
        · exact .inl here
        · by_cases here : target = Path.absolute workingDirectory path
          · exact .inl here
          · exact .inr ⟨named, here, free⟩

/-- No place is kept twice. -/
theorem nodup_map_withoutRepeats (workingDirectory : String) (taken paths : List String) :
    ((withoutRepeats workingDirectory taken paths).map
      (Path.absolute workingDirectory)).Nodup := by
  induction paths generalizing taken with
  | nil => exact List.nodup_nil
  | cons path others inductionHypothesis =>
    rw [withoutRepeats]
    split
    · exact inductionHypothesis taken
    · rw [List.map_cons, List.nodup_cons, mem_map_withoutRepeats_iff]
      refine ⟨?_, inductionHypothesis _⟩
      rintro ⟨_, free⟩
      exact free List.mem_cons_self

/-- What is kept is the first way to its place. -/
theorem find?_of_mem_withoutRepeats {paths : List String} {path : String}
    (member : path ∈ withoutRepeats workingDirectory taken paths) :
    paths.find? (fun other => Path.absolute workingDirectory other =
      Path.absolute workingDirectory path) = some path := by
  have kept : Path.absolute workingDirectory path ∈
      (withoutRepeats workingDirectory taken paths).map (Path.absolute workingDirectory) :=
    List.mem_map_of_mem member
  induction paths generalizing taken with
  | nil => simp [withoutRepeats] at member
  | cons first others inductionHypothesis =>
    have free := (mem_map_withoutRepeats_iff.mp kept).2
    rw [withoutRepeats] at member kept
    split at member
    · rename_i isTaken
      rw [if_pos isTaken] at kept
      rw [List.contains_iff_mem] at isTaken
      have apart : Path.absolute workingDirectory first ≠ Path.absolute workingDirectory path := by
        intro same
        exact free (same ▸ isTaken)
      rw [List.find?_cons_of_neg (by simpa using apart)]
      exact inductionHypothesis member kept
    · rename_i isFree
      rcases List.mem_cons.mp member with rfl | later
      · exact List.find?_cons_of_pos (by simp)
      · have keptLater := List.mem_map_of_mem (f := Path.absolute workingDirectory) later
        have apart : Path.absolute workingDirectory first ≠
            Path.absolute workingDirectory path := by
          intro same
          exact (mem_map_withoutRepeats_iff.mp keptLater).2 (by simp [same])
        rw [List.find?_cons_of_neg (by simpa using apart)]
        exact inductionHypothesis later keptLater

/-- To take more places is to strike them out afterwards. -/
theorem withoutRepeats_append_taken (workingDirectory : String) (taken more paths : List String) :
    withoutRepeats workingDirectory (taken ++ more) paths =
      (withoutRepeats workingDirectory taken paths).filter
        (fun path => Path.absolute workingDirectory path ∉ more) := by
  induction paths generalizing taken with
  | nil => rfl
  | cons path others inductionHypothesis =>
    let target := Path.absolute workingDirectory path
    rw [withoutRepeats, withoutRepeats]
    by_cases isTaken : target ∈ taken
    · have isTakenToo : target ∈ taken ++ more := List.mem_append_left more isTaken
      rw [if_pos (List.contains_iff_mem.mpr isTakenToo),
        if_pos (List.contains_iff_mem.mpr isTaken), inductionHypothesis]
    · by_cases isMore : target ∈ more
      · have isTakenToo : target ∈ taken ++ more := List.mem_append_right taken isMore
        -- The place is struck out here, so it makes no difference that it counts as taken later.
        have sameLater : ∀ other, other ∈ taken ++ more ↔ other ∈ target :: taken ++ more := by
          intro other
          rw [List.cons_append, List.mem_cons]
          constructor
          · exact .inr
          · rintro (here | member)
            · exact here ▸ isTakenToo
            · exact member
        rw [if_pos (List.contains_iff_mem.mpr isTakenToo),
          if_neg (by rwa [List.contains_iff_mem]),
          List.filter_cons_of_neg (by simpa using isMore), ← inductionHypothesis]
        exact withoutRepeats_congr sameLater others
      · have isFree : target ∉ taken ++ more := by
          rw [List.mem_append, not_or]
          exact ⟨isTaken, isMore⟩
        rw [if_neg (by rwa [List.contains_iff_mem]), if_neg (by rwa [List.contains_iff_mem]),
          List.filter_cons_of_pos (by simpa using isMore), ← inductionHypothesis,
          List.cons_append]

/-- The second of two lists of paths is read with the places of the first one taken. -/
theorem withoutRepeats_append (workingDirectory : String) (taken first second : List String) :
    withoutRepeats workingDirectory taken (first ++ second) =
      withoutRepeats workingDirectory taken first ++
        withoutRepeats workingDirectory
          (taken ++ first.map (Path.absolute workingDirectory)) second := by
  induction first generalizing taken with
  | nil => simp [withoutRepeats]
  | cons path others inductionHypothesis =>
    let target := Path.absolute workingDirectory path
    rw [List.cons_append, withoutRepeats, withoutRepeats, inductionHypothesis,
      inductionHypothesis]
    split
    · rename_i isTaken
      rw [List.contains_iff_mem] at isTaken
      congr 1
      apply withoutRepeats_congr
      intro other
      rw [List.map_cons, List.mem_append, List.mem_append, List.mem_cons]
      constructor
      · rintro (member | member)
        · exact .inl member
        · exact .inr (.inr member)
      · rintro (member | here | member)
        · exact .inl member
        · exact .inl (here ▸ isTaken)
        · exact .inr member
    · rw [List.cons_append]
      congr 2
      apply withoutRepeats_congr
      intro other
      simp only [List.map_cons, List.mem_cons, List.mem_append]
      exact or_left_comm

end FirstWays

/-- Sorted texts are in ascending order. -/
theorem pairwise_sorted (texts : List String) : (sorted texts).Pairwise (· ≤ ·) := by
  have pairwise : (sorted texts).Pairwise fun left right => decide (left ≤ right) = true := by
    apply List.pairwise_mergeSort
    · intro first second third
      simpa using String.le_trans
    · intro first second
      simpa using String.le_total first second
  exact pairwise.imp of_decide_eq_true

namespace Selection

open ServiceStubs.Path

/-- The selection with other paths. -/
def withPaths (selection : Selection) (paths : List String) : Selection :=
  { selection with paths := paths }

/-- The selection with other excludes. -/
def withExcludes (selection : Selection) (excludes : List String) : Selection :=
  { selection with excludes := excludes }

/-- Paths name their files one after another. -/
theorem namedFiles_withPaths_append (selection : Selection) (tree : FileTree)
    (workingDirectory root : String) (first second : List String) :
    (selection.withPaths (first ++ second)).namedFiles tree workingDirectory root =
      (selection.withPaths first).namedFiles tree workingDirectory root ++
        (selection.withPaths second).namedFiles tree workingDirectory root :=
  List.flatMap_append

/-- Paths exclude their files one after another. -/
theorem excludedPaths_withExcludes_append (selection : Selection) (tree : FileTree)
    (workingDirectory root : String) (first second : List String) :
    (selection.withExcludes (first ++ second)).excludedPaths tree workingDirectory root =
      (selection.withExcludes first).excludedPaths tree workingDirectory root ++
        (selection.withExcludes second).excludedPaths tree workingDirectory root :=
  List.flatMap_append

/-- More paths add the ways to new places. -/
theorem sources_withPaths_append (selection : Selection) (tree : FileTree)
    (workingDirectory root : String) (first second : List String) :
    (selection.withPaths (first ++ second)).sources tree workingDirectory root =
      (selection.withPaths first).sources tree workingDirectory root ++
        ((selection.withPaths second).sources tree workingDirectory root).filter fun path =>
          absolute workingDirectory path ∉
            ((selection.withPaths first).sources tree workingDirectory root).map
              (absolute workingDirectory) := by
  unfold sources
  rw [namedFiles_withPaths_append, withoutRepeats_append, withoutRepeats_append_taken]
  congr 1
  apply List.filter_congr
  intro path member
  -- A source of the second paths is not excluded, so the first paths lead to its place exactly if
  -- one of their sources does.
  have free := (mem_map_withoutRepeats_iff.mp
    (List.mem_map_of_mem (f := absolute workingDirectory) member)).2
  rw [decide_eq_decide, not_iff_not, mem_map_withoutRepeats_iff]
  exact ⟨fun named => ⟨named, free⟩, And.left⟩

/-- More excludes take away what they exclude. -/
theorem sources_withExcludes_append (selection : Selection) (tree : FileTree)
    (workingDirectory root : String) (first second : List String) :
    (selection.withExcludes (first ++ second)).sources tree workingDirectory root =
      ((selection.withExcludes first).sources tree workingDirectory root).filter fun path =>
        absolute workingDirectory path ∉
          (selection.withExcludes second).excludedPaths tree workingDirectory root := by
  unfold sources
  rw [excludedPaths_withExcludes_append, withoutRepeats_append_taken]
  rfl

/-- It only matters which excludes there are. -/
theorem sources_withExcludes_congr {first second : List String}
    (same : ∀ exclude, exclude ∈ first ↔ exclude ∈ second) (selection : Selection)
    (tree : FileTree) (workingDirectory root : String) :
    (selection.withExcludes first).sources tree workingDirectory root =
      (selection.withExcludes second).sources tree workingDirectory root := by
  apply withoutRepeats_congr
  intro target
  unfold excludedPaths
  rw [List.mem_flatMap, List.mem_flatMap]
  constructor
  · rintro ⟨exclude, member, excluded⟩
    exact ⟨exclude, (same exclude).mp member, excluded⟩
  · rintro ⟨exclude, member, excluded⟩
    exact ⟨exclude, (same exclude).mpr member, excluded⟩

/-- Collecting composes: more paths add the ways to new places, so the same paths again add
nothing; more excludes take away what they exclude, and neither their order nor their number
matters. -/
theorem sources_compose (selection : Selection) (tree : FileTree) (workingDirectory root : String)
    (first second : List String) :
    ((selection.withPaths (first ++ second)).sources tree workingDirectory root =
      (selection.withPaths first).sources tree workingDirectory root ++
        ((selection.withPaths second).sources tree workingDirectory root).filter fun path =>
          absolute workingDirectory path ∉
            ((selection.withPaths first).sources tree workingDirectory root).map
              (absolute workingDirectory)) ∧
    (selection.withPaths (first ++ first)).sources tree workingDirectory root =
      (selection.withPaths first).sources tree workingDirectory root ∧
    ((selection.withExcludes (first ++ second)).sources tree workingDirectory root =
      ((selection.withExcludes first).sources tree workingDirectory root).filter fun path =>
        absolute workingDirectory path ∉
          (selection.withExcludes second).excludedPaths tree workingDirectory root) ∧
    ((∀ exclude, exclude ∈ first ↔ exclude ∈ second) →
      (selection.withExcludes first).sources tree workingDirectory root =
        (selection.withExcludes second).sources tree workingDirectory root) := by
  refine ⟨sources_withPaths_append .., ?_, sources_withExcludes_append ..,
    fun same => sources_withExcludes_congr same ..⟩
  rw [sources_withPaths_append, List.append_right_eq_self, List.filter_eq_nil_iff]
  intro path member
  have named := List.mem_map_of_mem (f := absolute workingDirectory) member
  simpa using List.mem_map.mp named

/-- A project with three schema files. -/
def smallProject : FileTree :=
  ⟨[(["p"], .directory), (["p", "a.proto"], .file []), (["p", "b.proto"], .file []),
    (["p", "lib"], .directory), (["p", "lib", "c.proto"], .file [])]⟩

/-- All its files, the first one named twice. -/
def smallSelection : Selection where
  paths := ["a.proto", "b*", "lib/../a?proto", "lib"]

/-- Excludes in another order, one of them repeated. -/
theorem sources_of_reordered_excludes :
    (smallSelection.withExcludes ["b.proto", "l*/c.proto"]).sources smallProject "/p" "" =
        ["a.proto"] ∧
      (∀ exclude, exclude ∈ ["b.proto", "l*/c.proto"] ↔
        exclude ∈ ["l*/c.proto", "b.proto", "l*/c.proto"]) ∧
      (smallSelection.withExcludes ["b.proto", "l*/c.proto"]).sources smallProject "/p" "" =
        (smallSelection.withExcludes ["l*/c.proto", "b.proto", "l*/c.proto"]).sources
          smallProject "/p" "" := by
  have same : ∀ exclude, exclude ∈ ["b.proto", "l*/c.proto"] ↔
      exclude ∈ ["l*/c.proto", "b.proto", "l*/c.proto"] := by
    intro exclude
    simp only [List.mem_cons, List.not_mem_nil, or_false]
    tauto
  exact ⟨by decide +kernel, same, (sources_compose _ _ _ _ _ _).2.2.2 same⟩

end Selection

end ServiceStubs
