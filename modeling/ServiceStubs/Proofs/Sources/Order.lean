import ServiceStubs.Proofs.FileTree.Order
import ServiceStubs.Proofs.Pattern.Meaning
import ServiceStubs.Proofs.Sources.Finding

/-!
# Collecting in a reordered tree

Directories list their names in some order, and a search finds its matches in an order that depends
on it. The matches themselves do not, and each expression gives its schema files in ascending
order, so that a selection collects the same list whatever the order was. The one place where a
search looks at the first of its matches is when it drops the empty path, which it never finds
(`Pattern.Search.empty_not_mem_expand`).
-/

namespace ServiceStubs

/-- Texts in ascending order do not tell in which order they were given. -/
theorem sorted_eq_of_perm {left right : List String} (same : left.Perm right) :
    sorted left = sorted right := by
  refine List.Perm.eq_of_pairwise ?_ (pairwise_sorted left) (pairwise_sorted right) ?_
  · intro first second _ _ before after
    exact String.le_antisymm before after
  · exact (List.mergeSort_perm left _).trans (same.trans (List.mergeSort_perm right _).symm)

namespace Pattern.Search

/-- The same search in another tree. -/
def inTree (search : Search) (tree : FileTree) : Search :=
  { search with tree := tree }

section Permuting

variable {search : Search} {other : FileTree} (reordered : search.tree.Reordered other)
  (depth : Nat) (directoriesOnly : Bool) (directory segment pattern path : String)

include reordered

/-- The same paths are directories in a reordered tree. -/
theorem isDirectory_inTree :
    (search.inTree other).tree.isDirectory (search.inTree other).workingDirectory path =
      search.tree.isDirectory search.workingDirectory path :=
  (reordered.isDirectory_eq _ path).symm

/-- The same paths exist in a reordered tree. -/
theorem holds_inTree :
    (search.inTree other).tree.holds (search.inTree other).workingDirectory path =
      search.tree.holds search.workingDirectory path :=
  (reordered.holds_eq _ path).symm

/-- The same ways lead down in a reordered tree. -/
theorem allBelow_perm :
    (search.allBelow directory directoriesOnly).Perm
      ((search.inTree other).allBelow directory directoriesOnly) := by
  have same : (search.inTree other).itself directory = search.itself directory := by
    rw [itself, itself, isDirectory_inTree reordered]
    rfl
  unfold allBelow
  rw [same]
  exact ((reordered.contents_perm _ _).filterMap _).append_left _

/-- The same names match in a reordered tree. -/
theorem matchesIn_perm :
    (search.matchesIn directory segment directoriesOnly).Perm
      ((search.inTree other).matchesIn directory segment directoriesOnly) :=
  (reordered.list_perm _ _).filterMap _

/-- One segment finds the same in a reordered tree. -/
theorem step_perm :
    (search.step directory segment directoriesOnly).Perm
      ((search.inTree other).step directory segment directoriesOnly) := by
  unfold step
  split
  · have sameRecursion : (search.inTree other).recursive = search.recursive := rfl
    rw [sameRecursion]
    split
    · exact allBelow_perm reordered directoriesOnly directory
    · exact matchesIn_perm reordered directoriesOnly directory segment
  · rw [isDirectory_inTree reordered, holds_inTree reordered]

/-- The matches of a pattern are the same, in some order. -/
theorem expandUpTo_perm :
    (search.expandUpTo depth directoriesOnly pattern).Perm
      ((search.inTree other).expandUpTo depth directoriesOnly pattern) := by
  induction depth generalizing pattern directoriesOnly with
  | zero => exact .refl []
  | succ depth inductionHypothesis =>
    cases wild : hasWildcard pattern with
    | false =>
      rw [expandUpTo_of_plain wild, expandUpTo_of_plain wild, isDirectory_inTree reordered,
        holds_inTree reordered]
    | true =>
      have directories : (search.directoriesFor depth pattern).Perm
          ((search.inTree other).directoriesFor depth pattern) := by
        unfold directoriesFor
        split
        · exact inductionHypothesis true _
        · exact .refl _
      rw [expandUpTo_of_wildcard wild, expandUpTo_of_wildcard wild]
      exact directories.flatMap fun directory _ =>
        (step_perm reordered directoriesOnly directory _).map _

end Permuting

/-- The empty path is no schema file, so that it does not matter whether it is dropped. -/
theorem filter_expand (search : Search) (pattern : String) :
    (search.expand pattern).filter Name.isSchemaFile =
      (search.expandUpTo (pattern.length + 1) false pattern).filter Name.isSchemaFile := by
  have noSchema : Name.isSchemaFile "" = false := by decide
  unfold expand
  dsimp only
  split
  · split
    · rename_i shown
      rw [shown, List.filter_cons_of_neg (by simp [noSchema])]
    · rfl
  · rfl

section Collecting

variable {search : Search} {other : FileTree} (reordered : search.tree.Reordered other)

include reordered

/-- The same files lie below a directory in a reordered tree. -/
theorem filesBelow_perm (directory : String) :
    (search.filesBelow directory).Perm ((search.inTree other).filesBelow directory) :=
  (reordered.contents_perm _ _).filterMap _

/-- The same files lie in a directory in a reordered tree. -/
theorem filesIn_perm (directory : String) :
    (search.filesIn directory).Perm ((search.inTree other).filesIn directory) :=
  (reordered.list_perm _ _).filterMap _

/-- The same paths match an expression. -/
theorem mem_expand_inTree_iff (wellFormed : search.tree.IsWellFormed) {pattern found : String} :
    found ∈ (search.inTree other).expand pattern ↔ found ∈ search.expand pattern := by
  by_cases empty : found = ""
  · have otherWellFormed : (search.inTree other).tree.IsWellFormed :=
      reordered.isWellFormed wellFormed
    rw [empty]
    exact iff_of_false (empty_not_mem_expand otherWellFormed pattern)
      (empty_not_mem_expand wellFormed pattern)
  · rw [mem_expand_iff empty, mem_expand_iff empty]
    exact (expandUpTo_perm reordered (pattern.length + 1) false pattern).mem_iff.symm

/-- An expression names the same schema files in the same order. -/
theorem schemaFiles_inTree (path : String) :
    (search.inTree other).schemaFiles path = search.schemaFiles path := by
  have picked : ((search.candidates path).filter Name.isSchemaFile).Perm
      (((search.inTree other).candidates path).filter Name.isSchemaFile) := by
    unfold candidates
    rw [isDirectory_inTree reordered]
    split
    · have sameRecursion : (search.inTree other).recursive = search.recursive := rfl
      rw [sameRecursion]
      split
      · exact (filesBelow_perm reordered path).filter _
      · exact (filesIn_perm reordered path).filter _
    · rw [filter_expand, filter_expand]
      exact (expandUpTo_perm reordered _ false path).filter _
  exact (sorted_eq_of_perm picked).symm

/-- The same files are excluded in a reordered tree. -/
theorem mem_excluded_inTree_iff (wellFormed : search.tree.IsWellFormed) {path target : String} :
    target ∈ (search.inTree other).excluded path ↔ target ∈ search.excluded path := by
  have sameFile : (search.inTree other).tree.isFile (search.inTree other).workingDirectory path =
      search.tree.isFile search.workingDirectory path :=
    (reordered.isFile_eq _ path).symm
  unfold excluded
  rw [List.mem_map, List.mem_map, sameFile]
  split
  · rfl
  · exact exists_congr fun found =>
      and_congr_left fun _ => mem_expand_inTree_iff reordered wellFormed

end Collecting

end Pattern.Search

namespace Selection

/-- A selection collects the same files in the same order, in whatever order the directories list
their names. -/
theorem sources_of_reordered {left right : FileTree} (wellFormed : left.IsWellFormed)
    (reordered : left.Reordered right) (selection : Selection) (workingDirectory root : String) :
    selection.sources right workingDirectory root =
      selection.sources left workingDirectory root := by
  let search := selection.search left workingDirectory
  have searchReordered : search.tree.Reordered right := reordered
  have sameNamed : selection.namedFiles right workingDirectory root =
      selection.namedFiles left workingDirectory root := by
    unfold namedFiles
    congr 1
    funext path
    exact Pattern.Search.schemaFiles_inTree searchReordered _
  have sameExcluded (target : String) :
      target ∈ selection.excludedPaths right workingDirectory root ↔
        target ∈ selection.excludedPaths left workingDirectory root := by
    unfold excludedPaths
    rw [List.mem_flatMap, List.mem_flatMap]
    exact exists_congr fun exclude => and_congr_right fun _ =>
      Pattern.Search.mem_excluded_inTree_iff searchReordered wellFormed
  unfold sources
  rw [sameNamed]
  exact withoutRepeats_congr sameExcluded _

end Selection

end ServiceStubs
