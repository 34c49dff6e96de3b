import ServiceStubs.Proofs.Sources.Finding

/-!
# Searching to any depth

Recursion changes what two things stand for: a directory stands for all files below it instead of
those in it, and the segment `**` for any number of directories instead of one. Both only add to
what is found. Excludes are searched in the same way, so that with them recursion may also take
files away.
-/

namespace ServiceStubs

namespace Pattern.Search

/-- The search with recursion turned on or off. -/
def withRecursion (search : Search) (recursive : Bool) : Search :=
  { search with recursive := recursive }

variable {search : Search} {depth : Nat} {directoriesOnly : Bool}
  {pattern directory segment path found name : String}

/-- Hidden names are not matched by `**` in either meaning. -/
theorem mem_allBelow_of_mem_matchesIn
    (matched : name ∈ search.matchesIn directory anyDepth directoriesOnly) :
    name ∈ search.allBelow directory directoriesOnly := by
  obtain ⟨node, entry, wanted, here⟩ := mem_matchesIn_iff.mp matched
  have visible : isHidden name = false := by
    have shown : isHidden anyDepth = false := by decide
    simpa [matchesName, shown] using And.left (Bool.and_eq_true_iff.mp here)
  refine mem_allBelow_iff.mpr (.inr ⟨[name], node, FileTree.mem_list_iff.mp entry, wanted, ?_, ?_⟩)
  · simpa using visible
  · exact (joinStrings_singleton name).symm

/-- In one directory recursion only adds matches. -/
theorem mem_step_withRecursion
    (matched : name ∈ (search.withRecursion false).step directory segment directoriesOnly) :
    name ∈ (search.withRecursion true).step directory segment directoriesOnly := by
  unfold step at matched ⊢
  split at matched
  · rename_i wild
    rw [if_neg (by simp [withRecursion])] at matched
    rw [if_pos wild]
    split
    · rename_i deep
      rw [deep.2] at matched
      exact mem_allBelow_of_mem_matchesIn matched
    · exact matched
  · rename_i plain
    rw [if_neg plain]
    exact matched

/-- Every match of a pattern is also one with recursion, in the same spelling. -/
theorem mem_expandUpTo_withRecursion
    (matched : found ∈ (search.withRecursion false).expandUpTo depth directoriesOnly pattern) :
    found ∈ (search.withRecursion true).expandUpTo depth directoriesOnly pattern := by
  induction depth generalizing pattern found directoriesOnly with
  | zero => cases matched
  | succ depth inductionHypothesis =>
    cases wild : hasWildcard pattern with
    | false =>
      -- What exists at a path does not depend on how patterns are read.
      rw [mem_expandUpTo_of_plain wild] at matched ⊢
      exact matched
    | true =>
      obtain ⟨directory, among, name, here, rfl⟩ := (mem_expandUpTo_of_wildcard wild).mp matched
      refine (mem_expandUpTo_of_wildcard wild).mpr
        ⟨directory, ?_, name, mem_step_withRecursion here, rfl⟩
      unfold directoriesFor at among ⊢
      split at among
      · rename_i wildDirectory
        rw [if_pos wildDirectory]
        exact inductionHypothesis among
      · rename_i plainDirectory
        rw [if_neg plainDirectory]
        exact among

/-- The files in a directory are among those below it. -/
theorem mem_filesBelow_of_mem_filesIn (member : found ∈ search.filesIn path) :
    found ∈ search.filesBelow path := by
  obtain ⟨⟨name, node⟩, listed, shown⟩ := List.mem_filterMap.mp member
  refine List.mem_filterMap.mpr ⟨([name], node), FileTree.mem_list_iff.mp listed, ?_⟩
  cases node with
  | directory => cases shown
  | file bytes => rwa [joinStrings_singleton]

/-- A schema file that is found without recursion is found with it. -/
theorem mem_schemaFiles_withRecursion
    (member : found ∈ (search.withRecursion false).schemaFiles path) :
    found ∈ (search.withRecursion true).schemaFiles path := by
  obtain ⟨candidate, schema⟩ := mem_schemaFiles_iff.mp member
  refine mem_schemaFiles_iff.mpr ⟨?_, schema⟩
  unfold candidates at candidate ⊢
  split at candidate
  · rename_i isDirectory
    rw [if_pos (by exact isDirectory)]
    exact mem_filesBelow_of_mem_filesIn candidate
  · rename_i notDirectory
    rw [if_neg (by exact notDirectory)]
    have nonempty := Path.ne_empty_of_isSchemaFile schema
    rw [mem_expand_iff nonempty] at candidate ⊢
    exact mem_expandUpTo_withRecursion candidate

end Pattern.Search

namespace Selection

open ServiceStubs.Path

variable {tree : FileTree} {workingDirectory root target : String}

/-- The selection with recursion turned on or off. -/
def withRecursion (selection : Selection) (recursive : Bool) : Selection :=
  { selection with recursive := recursive }

/-- What is collected without recursion is collected with it, unless an exclude reaches further
then. -/
theorem mem_sources_withRecursion {selection : Selection}
    (member : target ∈ ((selection.withRecursion false).sources tree workingDirectory root).map
      (absolute workingDirectory))
    (kept : target ∉
      (selection.withRecursion true).excludedPaths tree workingDirectory root) :
    target ∈ ((selection.withRecursion true).sources tree workingDirectory root).map
      (absolute workingDirectory) := by
  obtain ⟨named, _⟩ := mem_map_withoutRepeats_iff.mp member
  refine mem_map_withoutRepeats_iff.mpr ⟨?_, kept⟩
  obtain ⟨found, among, rfl⟩ := List.mem_map.mp named
  obtain ⟨path, given, listed⟩ := List.mem_flatMap.mp among
  have listedDeep : found ∈ ((selection.search tree workingDirectory).withRecursion
      true).schemaFiles (join root path) :=
    Pattern.Search.mem_schemaFiles_withRecursion listed
  exact List.mem_map_of_mem (List.mem_flatMap.mpr ⟨path, given, listedDeep⟩)

/-- Without excludes recursion only adds files: every place that is collected without it is
collected with it. -/
theorem recursion_only_adds (tree : FileTree) (workingDirectory root : String)
    (paths : List String) (strictAnyDepth : Bool) :
    (({ paths, recursive := false, strictAnyDepth } : Selection).sources tree workingDirectory
        root).map (absolute workingDirectory) ⊆
      (({ paths, recursive := true, strictAnyDepth } : Selection).sources tree workingDirectory
        root).map (absolute workingDirectory) := by
  intro target member
  let selection : Selection := { paths, strictAnyDepth }
  have flat : ({ paths, recursive := false, strictAnyDepth } : Selection) =
      selection.withRecursion false :=
    rfl
  have deep : ({ paths, recursive := true, strictAnyDepth } : Selection) =
      selection.withRecursion true :=
    rfl
  have kept : target ∉
      (selection.withRecursion true).excludedPaths tree workingDirectory root :=
    List.not_mem_nil
  rw [flat] at member
  rw [deep]
  exact mem_sources_withRecursion member kept

/-- A project with nested and hidden directories. -/
def deepProject : FileTree :=
  ⟨[(["p"], .directory), (["p", "a.proto"], .file []), (["p", "lib"], .directory),
    (["p", "lib", "b.proto"], .file []), (["p", "lib", "in"], .directory),
    (["p", "lib", "in", "c.proto"], .file []), (["p", ".old"], .directory),
    (["p", ".old", "d.proto"], .file [])]⟩

/-- One file is found in either way, one at a greater depth only. -/
theorem recursion_adds_nested_file :
    let paths := ["**/b.proto", "**/c.proto", ".old"]
    let flat : Selection := { paths, recursive := false }
    let deep : Selection := { paths, recursive := true }
    flat.sources deepProject "/p" "" = ["lib/b.proto", ".old/d.proto"] ∧
      deep.sources deepProject "/p" "" =
        ["lib/b.proto", "lib/in/c.proto", ".old/d.proto"] ∧
      absolute "/p" "lib/b.proto" ∈ (deep.sources deepProject "/p" "").map (absolute "/p") := by
  intro paths flat deep
  have collected : flat.sources deepProject "/p" "" = ["lib/b.proto", ".old/d.proto"] := by
    decide +kernel
  have member : absolute "/p" "lib/b.proto" ∈
      (flat.sources deepProject "/p" "").map (absolute "/p") :=
    List.mem_map_of_mem (by rw [collected]; exact List.mem_cons_self)
  exact ⟨collected, by decide +kernel, recursion_only_adds deepProject "/p" "" paths false
    member⟩

end Selection

end ServiceStubs
