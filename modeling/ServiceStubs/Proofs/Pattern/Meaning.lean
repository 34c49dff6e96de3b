import ServiceStubs.Proofs.Pattern.Expansion

/-!
# What a pattern means

The paths that a pattern matches, said without a search. The last segment of a pattern is matched
in each directory that the rest of it matches. A segment with wildcards stands for names in the
directory, `**` stands for all ways down if any depth is meant, and any other segment stands for
itself. In a tree that is a file system, a search finds exactly these paths, but never the empty
one. How often and in which order it finds them is not said here.
-/

namespace ServiceStubs

namespace FileTree

variable {tree : FileTree} {workingDirectory path : String} {way : Location} {node : Node}

/-- A path leads to a directory, and something stands at the end of a way down from there. -/
def StandsBelow (tree : FileTree) (workingDirectory path : String) (way : Location)
    (node : Node) : Prop :=
  ∃ location, tree.locate workingDirectory path = .ok location ∧
    tree.node? location = some .directory ∧ way ≠ [] ∧ tree.node? (location ++ way) = some node

/-- The contents of a directory are what stands below it. -/
theorem IsWellFormed.mem_contents_iff_standsBelow (wellFormed : tree.IsWellFormed) :
    (way, node) ∈ tree.contents workingDirectory path ↔
      tree.StandsBelow workingDirectory path way node := by
  rw [mem_contents_iff]
  constructor
  · rintro ⟨location, located, isDirectory, down, entry⟩
    exact ⟨location, located, isDirectory, down, wellFormed.stands _ entry⟩
  · rintro ⟨location, located, isDirectory, down, stands⟩
    exact ⟨location, located, isDirectory, down, mem_nodes_of_node? (by simp [down]) stands⟩

/-- The entries of a directory are what stands one name below it. -/
theorem IsWellFormed.mem_list_iff_standsBelow (wellFormed : tree.IsWellFormed) {name : String} :
    (name, node) ∈ tree.list workingDirectory path ↔
      tree.StandsBelow workingDirectory path [name] node := by
  rw [mem_list_iff, wellFormed.mem_contents_iff_standsBelow]

/-- No way down is spelled by nothing. -/
theorem IsWellFormed.joinStrings_ne_empty (wellFormed : tree.IsWellFormed)
    (below : tree.StandsBelow workingDirectory path way node) :
    Text.joinStrings "/" way ≠ "" := by
  obtain ⟨location, _, _, down, stands⟩ := below
  have clean : ∀ name ∈ way, name ≠ "" ∧ '/' ∉ name.toList := fun name inWay =>
    (wellFormed.isName_of_append stands name inWay).clean
  intro empty
  have names := Path.names_joinStrings clean
  rw [empty, Path.names_empty] at names
  exact down names.symm

end FileTree

namespace Path

/-- Only nothing behind nothing is joined to nothing. -/
theorem join_eq_empty_iff {base path : String} : join base path = "" ↔ base = "" ∧ path = "" := by
  constructor
  · intro empty
    unfold join at empty
    split at empty
    · rename_i rooted
      rw [empty] at rooted
      cases rooted
    · split at empty
      · exact String.append_eq_empty_iff.mp empty
      · simp at empty
  · rintro ⟨rfl, rfl⟩
    rfl

/-- A path starts with its directory. -/
theorem directory_isPrefix (path : String) : (directory path).toList <+: path.toList := by
  obtain ⟨count, spelled, _⟩ := exists_slashes path
  rw [spelled, String.toList_append, String.toList_append, List.append_assoc, ← spelled]
  exact List.prefix_append _ _

/-- A path without a directory is its file name. -/
theorem eq_fileName_of_directory {path : String} (bare : directory path = "") :
    path = fileName path := by
  obtain ⟨count, spelled, ⟨_, rfl⟩ | ⟨_, named, _⟩⟩ := exists_slashes path
  · rw [bare] at spelled
    simpa using spelled
  · rw [bare] at named
    cases named

end Path

namespace Pattern

/-- A segment matches a name: the parts of the segment match the name part by part, and a name that
starts with a dot is matched only by a segment that starts with one. -/
def MatchesName (segment name : String) : Prop :=
  (isHidden name = true → isHidden segment = true) ∧ Matches (atoms segment.toList) name.toList

/-- This is what is tested. -/
theorem matchesName_iff {segment name : String} :
    matchesName segment name = true ↔ MatchesName segment name := by
  rw [matchesName, Bool.and_eq_true, accepts_iff, MatchesName]
  refine and_congr_left fun _ => ?_
  cases isHidden segment <;> cases isHidden name <;> simp

namespace Search

variable {search : Search} {depth : Nat} {directoriesOnly : Bool}
  {pattern directory segment found name : String}

/-- What a segment stands for behind a directory, which may be spelled by nothing. With
`directoriesOnly`, wildcards stand for directories. -/
inductive SegmentMatches (search : Search) (directory : String) (directoriesOnly : Bool) :
    String → String → Prop where
  /-- Wildcards stand for names in the directory. -/
  | inside {segment name : String} {node : Node} (wild : hasWildcard segment = true)
      (single : search.recursive = true → segment ≠ anyDepth)
      (stands : search.tree.StandsBelow search.workingDirectory (listed directory) [name] node)
      (wanted : directoriesOnly = true → node = .directory)
      (matched : MatchesName segment name) :
      SegmentMatches search directory directoriesOnly segment name
  /-- Any depth stands for all ways down along names that do not start with a dot. -/
  | below {way : Location} {node : Node} (deep : search.recursive = true)
      (stands : search.tree.StandsBelow search.workingDirectory (listed directory) way node)
      (wanted : directoriesOnly = true → node = .directory)
      (visible : ∀ name ∈ way, isHidden name = false) :
      SegmentMatches search directory directoriesOnly anyDepth (Text.joinStrings "/" way)
  /-- Any depth also stands for no step at all, in a strict search only at a directory. -/
  | here (deep : search.recursive = true)
      (usable : search.strictAnyDepth = true → directory = "" ∨
        search.tree.find? search.workingDirectory directory = some .directory) :
      SegmentMatches search directory directoriesOnly anyDepth ""
  /-- A name without wildcards stands for itself, if there is something. -/
  | literal {segment : String} {node : Node} (plain : hasWildcard segment = false)
      (named : segment ≠ "")
      (stands : search.tree.find? search.workingDirectory (Path.join directory segment) =
        some node) :
      SegmentMatches search directory directoriesOnly segment segment
  /-- A slash at the end asks for a directory. -/
  | trailing (isDirectory : search.tree.find? search.workingDirectory directory =
      some .directory) :
      SegmentMatches search directory directoriesOnly "" ""

/-- The paths that a pattern matches. -/
inductive IsMatch (search : Search) : Bool → String → String → Prop where
  /-- A pattern without wildcards matches itself, if there is something. -/
  | literal {directoriesOnly : Bool} {pattern : String} {node : Node}
      (plain : hasWildcard pattern = false) (named : Path.fileName pattern ≠ "")
      (stands : search.tree.find? search.workingDirectory pattern = some node) :
      IsMatch search directoriesOnly pattern pattern
  /-- With a slash at the end, there has to be a directory. -/
  | trailing {directoriesOnly : Bool} {pattern : String} (plain : hasWildcard pattern = false)
      (slash : Path.fileName pattern = "")
      (isDirectory : search.tree.find? search.workingDirectory (Path.directory pattern) =
        some .directory) :
      IsMatch search directoriesOnly pattern pattern
  /-- The last segment is matched in a directory that is named. -/
  | inNamed {directoriesOnly : Bool} {pattern name : String} (wild : hasWildcard pattern = true)
      (plain : hasWildcard (Path.directory pattern) = false)
      (matched : search.SegmentMatches (Path.directory pattern) directoriesOnly
        (Path.fileName pattern) name) :
      IsMatch search directoriesOnly pattern (Path.join (Path.directory pattern) name)
  /-- The last segment is matched in a directory that is matched. -/
  | inMatched {directoriesOnly : Bool} {pattern directory name : String}
      (wild : hasWildcard (Path.directory pattern) = true)
      (outer : IsMatch search true (Path.directory pattern) directory)
      (matched : search.SegmentMatches directory directoriesOnly (Path.fileName pattern) name) :
      IsMatch search directoriesOnly pattern (Path.join directory name)

section Finding

/-- A node is kept unless it is a file where directories are asked for. -/
theorem isWanted_iff {node : Node} :
    isWanted directoriesOnly node = true ↔ (directoriesOnly = true → node = .directory) := by
  cases directoriesOnly <;> simp [isWanted]

/-- A step of the search finds what the segment stands for. -/
theorem mem_step_iff (wellFormed : search.tree.IsWellFormed) :
    name ∈ search.step directory segment directoriesOnly ↔
      search.SegmentMatches directory directoriesOnly segment name := by
  constructor
  · intro found
    unfold step at found
    split at found
    · rename_i wild
      split at found
      · rename_i deep
        obtain ⟨deep, rfl⟩ := deep
        rcases mem_allBelow_iff.mp found with itself | ⟨way, node, entry, wanted, visible, rfl⟩
        · obtain ⟨rfl, usable⟩ := mem_itself_iff.mp itself
          exact .here deep fun strict =>
            (usable strict).imp_right FileTree.isDirectory_iff.mp
        · exact .below deep (wellFormed.mem_contents_iff_standsBelow.mp entry)
            (isWanted_iff.mp wanted) visible
      · rename_i single
        obtain ⟨node, entry, wanted, matched⟩ := mem_matchesIn_iff.mp found
        exact .inside wild (fun deep same => single ⟨deep, same⟩)
          (wellFormed.mem_list_iff_standsBelow.mp entry) (isWanted_iff.mp wanted)
          (matchesName_iff.mp matched)
    · rename_i plain
      split at found
      · rename_i empty
        split at found
        · rename_i isDirectory
          rw [List.mem_singleton.mp found, empty]
          exact .trailing (FileTree.isDirectory_iff.mp isDirectory)
        · cases found
      · rename_i named
        split at found
        · rename_i stands
          rw [member_eq_join named, FileTree.holds_iff] at stands
          obtain ⟨node, stands⟩ := stands
          rw [List.mem_singleton.mp found]
          exact .literal (by simpa using plain) named stands
        · cases found
  · have anyDepthIsWild : hasWildcard anyDepth = true := by decide
    intro matched
    unfold step
    cases matched with
    | inside wild single stands wanted matched =>
      rw [if_pos wild, if_neg fun deep => single deep.1 deep.2]
      exact mem_matchesIn_iff.mpr ⟨_, wellFormed.mem_list_iff_standsBelow.mpr stands,
        isWanted_iff.mpr wanted, matchesName_iff.mpr matched⟩
    | below deep stands wanted visible =>
      rw [if_pos anyDepthIsWild, if_pos ⟨deep, rfl⟩]
      exact mem_allBelow_iff.mpr (.inr ⟨_, _, wellFormed.mem_contents_iff_standsBelow.mpr stands,
        isWanted_iff.mpr wanted, visible, rfl⟩)
    | here deep usable =>
      rw [if_pos anyDepthIsWild, if_pos ⟨deep, rfl⟩]
      exact mem_allBelow_iff.mpr (.inl (mem_itself_iff.mpr ⟨rfl, fun strict =>
        (usable strict).imp_right FileTree.isDirectory_iff.mpr⟩))
    | literal plain named stands =>
      rw [if_neg (by simp [plain]), if_neg named, member_eq_join named,
        if_pos (FileTree.holds_iff.mpr ⟨_, stands⟩)]
      exact List.mem_singleton_self _
    | trailing isDirectory =>
      rw [if_neg (by decide), if_pos rfl, if_pos (FileTree.isDirectory_iff.mpr isDirectory)]
      exact List.mem_singleton_self _

/-- A search that is deep enough finds what the pattern matches. -/
theorem mem_expandUpTo_iff (wellFormed : search.tree.IsWellFormed)
    (deep : pattern.length < depth) :
    found ∈ search.expandUpTo depth directoriesOnly pattern ↔
      search.IsMatch directoriesOnly pattern found := by
  induction depth generalizing pattern found directoriesOnly with
  | zero => omega
  | succ depth inductionHypothesis =>
    have directoryDeep (wild : hasWildcard (Path.directory pattern) = true) :
        (Path.directory pattern).length < depth := by
      have shorter := Path.length_directory_lt (isOnlySlashes_of_hasWildcard wild)
      omega
    have wildOfDirectory (wild : hasWildcard (Path.directory pattern) = true) :
        hasWildcard pattern = true := by
      rw [hasWildcard, List.any_eq_true] at wild ⊢
      obtain ⟨character, member, special⟩ := wild
      exact ⟨character, (Path.directory_isPrefix pattern).subset member, special⟩
    constructor
    · intro member
      cases wild : hasWildcard pattern with
      | false =>
        obtain ⟨rfl, stands⟩ := (mem_expandUpTo_of_plain wild).mp member
        split at stands
        · rename_i slash
          exact .trailing wild slash (FileTree.isDirectory_iff.mp stands)
        · rename_i named
          obtain ⟨node, stands⟩ := FileTree.holds_iff.mp stands
          exact .literal wild named stands
      | true =>
        obtain ⟨directory, among, name, matched, rfl⟩ :=
          (mem_expandUpTo_of_wildcard wild).mp member
        have matched := (mem_step_iff wellFormed).mp matched
        unfold directoriesFor at among
        split at among
        · rename_i wildDirectory
          exact .inMatched wildDirectory
            ((inductionHypothesis (directoryDeep wildDirectory)).mp among) matched
        · rename_i plainDirectory
          rw [List.mem_singleton.mp among] at matched ⊢
          exact .inNamed wild (by simpa using plainDirectory) matched
    · intro isMatch
      cases isMatch with
      | literal plain named stands =>
        refine (mem_expandUpTo_of_plain plain).mpr ⟨rfl, ?_⟩
        rw [if_neg named]
        exact FileTree.holds_iff.mpr ⟨_, stands⟩
      | trailing plain slash isDirectory =>
        refine (mem_expandUpTo_of_plain plain).mpr ⟨rfl, ?_⟩
        rw [if_pos slash]
        exact FileTree.isDirectory_iff.mpr isDirectory
      | inNamed wild plain matched =>
        refine (mem_expandUpTo_of_wildcard wild).mpr
          ⟨_, ?_, _, (mem_step_iff wellFormed).mpr matched, rfl⟩
        rw [directoriesFor, if_neg (by simp [plain])]
        exact List.mem_singleton_self _
      | inMatched wild outer matched =>
        refine (mem_expandUpTo_of_wildcard (wildOfDirectory wild)).mpr
          ⟨_, ?_, _, (mem_step_iff wellFormed).mpr matched, rfl⟩
        rw [directoriesFor, if_pos wild]
        exact (inductionHypothesis (directoryDeep wild)).mpr outer

end Finding

section Dropping

/-- Behind a directory, nothing is matched by any depth or by nothing. -/
theorem segment_of_matches_empty (wellFormed : search.tree.IsWellFormed)
    (matched : search.SegmentMatches directory directoriesOnly segment "") :
    search.recursive = true ∧ segment = anyDepth ∨ segment = "" := by
  generalize nothing : "" = name at matched
  cases matched with
  | inside _ _ stands =>
    rw [← nothing] at stands
    exact absurd (joinStrings_singleton "") (wellFormed.joinStrings_ne_empty stands)
  | below _ stands => exact absurd nothing.symm (wellFormed.joinStrings_ne_empty stands)
  | here deep => exact .inl ⟨deep, rfl⟩
  | literal _ named => exact absurd nothing.symm named
  | trailing => exact .inr rfl

/-- Only an empty pattern, and one that starts with any depth, might match the empty path. -/
theorem drops_of_isMatch_empty (wellFormed : search.tree.IsWellFormed)
    (isMatch : search.IsMatch directoriesOnly pattern found) (empty : found = "") :
    pattern = "" ∨ search.recursive = true ∧ Text.startsWith pattern anyDepth = true := by
  induction isMatch with
  | literal => exact .inl empty
  | trailing => exact .inl empty
  | @inNamed _ pattern name wild plain matched =>
    obtain ⟨bare, rfl⟩ := Path.join_eq_empty_iff.mp empty
    rw [Path.eq_fileName_of_directory bare]
    rcases segment_of_matches_empty wellFormed matched with ⟨deep, same⟩ | same
    · rw [same]
      exact .inr ⟨deep, by decide⟩
    · exact .inl same
  | @inMatched _ pattern directory name wild outer matched inductionHypothesis =>
    rcases inductionHypothesis (Path.join_eq_empty_iff.mp empty).1 with bare | ⟨deep, starts⟩
    · rw [bare] at wild
      cases wild
    · refine .inr ⟨deep, ?_⟩
      rw [Text.startsWith, List.isPrefixOf_iff_prefix] at starts ⊢
      exact starts.trans (Path.directory_isPrefix pattern)

/-- The empty path can only come first if it comes first in the first of two lists. -/
theorem empty_not_mem_tail_append {first second : List String} (early : "" ∉ first.tail)
    (late : "" ∉ second) : "" ∉ (first ++ second).tail := by
  cases first with
  | nil => exact fun member => late (List.mem_of_mem_tail member)
  | cons text others =>
    rw [List.cons_append, List.tail_cons, List.mem_append, not_or]
    exact ⟨early, late⟩

/-- The empty path is the first match of a segment in a directory, or none. -/
theorem empty_not_mem_tail_step (wellFormed : search.tree.IsWellFormed) :
    "" ∉ (search.step directory segment directoriesOnly).tail := by
  unfold step
  split
  · split
    · unfold allBelow
      apply empty_not_mem_tail_append
      · unfold itself
        split <;> simp
      · intro member
        obtain ⟨⟨way, node⟩, listed, shown⟩ := List.mem_filterMap.mp member
        split at shown
        · exact wellFormed.joinStrings_ne_empty (wellFormed.mem_contents_iff_standsBelow.mp listed)
            (Option.some.inj shown)
        · cases shown
    · intro member
      obtain ⟨node, entry, _, _⟩ := mem_matchesIn_iff.mp (List.mem_of_mem_tail member)
      exact wellFormed.joinStrings_ne_empty (wellFormed.mem_list_iff_standsBelow.mp entry)
        (joinStrings_singleton "")
  · split
    · split <;> simp
    · split <;> simp

/-- The empty path is the first match of a pattern, or none. -/
theorem empty_not_mem_tail_expandUpTo (wellFormed : search.tree.IsWellFormed) :
    "" ∉ (search.expandUpTo depth directoriesOnly pattern).tail := by
  induction depth generalizing pattern directoriesOnly with
  | zero => simp [expandUpTo]
  | succ depth inductionHypothesis =>
    cases wild : hasWildcard pattern with
    | false =>
      rw [expandUpTo_of_plain wild]
      split
      · split <;> simp
      · split <;> simp
    | true =>
      -- Only the first directory can be the empty path, and only its first match is empty too.
      have rare : "" ∉ (search.directoriesFor depth pattern).tail := by
        unfold directoriesFor
        split
        · exact inductionHypothesis
        · simp
      rw [expandUpTo_of_wildcard wild]
      cases among : search.directoriesFor depth pattern with
      | nil => simp
      | cons first others =>
        rw [among, List.tail_cons] at rare
        rw [List.flatMap_cons]
        apply empty_not_mem_tail_append
        · rw [← List.map_tail]
          intro member
          obtain ⟨name, later, empty⟩ := List.mem_map.mp member
          rw [(Path.join_eq_empty_iff.mp empty).2] at later
          exact empty_not_mem_tail_step wellFormed later
        · intro member
          obtain ⟨directory, isOther, matched⟩ := List.mem_flatMap.mp member
          obtain ⟨name, _, empty⟩ := List.mem_map.mp matched
          rw [(Path.join_eq_empty_iff.mp empty).1] at isOther
          exact rare isOther

/-- The empty path is not found. Where it might match, it would come first and is dropped. -/
theorem empty_not_mem_expand (wellFormed : search.tree.IsWellFormed) (pattern : String) :
    "" ∉ search.expand pattern := by
  have rare : "" ∉ (search.expandUpTo (pattern.length + 1) false pattern).tail :=
    empty_not_mem_tail_expandUpTo wellFormed
  unfold expand
  dsimp only
  split
  · split
    · rename_i rest first
      rwa [first, List.tail_cons] at rare
    · rename_i notFirst
      cases found : search.expandUpTo (pattern.length + 1) false pattern with
      | nil => simp
      | cons first others =>
        rw [found, List.tail_cons] at rare
        rw [List.mem_cons, not_or]
        refine ⟨?_, rare⟩
        rintro rfl
        exact notFirst others found
  · rename_i keeps
    intro member
    exact keeps (drops_of_isMatch_empty wellFormed
      ((mem_expandUpTo_iff wellFormed (Nat.lt_succ_self _)).mp member) rfl)

/-- An expression finds what it matches as a pattern, the empty path apart. -/
theorem mem_expand_iff_isMatch (wellFormed : search.tree.IsWellFormed) :
    found ∈ search.expand pattern ↔ found ≠ "" ∧ search.IsMatch false pattern found := by
  by_cases empty : found = ""
  · rw [empty]
    exact iff_of_false (empty_not_mem_expand wellFormed pattern) fun both => both.1 rfl
  · rw [mem_expand_iff empty, mem_expandUpTo_iff wellFormed (Nat.lt_succ_self _)]
    simp [empty]

end Dropping

end Search

end Pattern

end ServiceStubs
