import Mathlib.Data.List.Forall2
import ServiceStubs.Proofs.FileTree.Lookup
import ServiceStubs.Proofs.Pattern.Matching

/-!
# Expanding a pattern

A pattern is expanded segment by segment: the directories first, then the names in each of them.
The module opens one round of this once and derives from it what the found paths are: they exist,
their names match the names of the pattern, and a path whose names match themselves is found. The
order in which paths are found is not spoken of here.
-/

namespace ServiceStubs

namespace Path

/-- A directory that is more than slashes is shorter than the path. -/
theorem length_directory_lt {path : String} (named : isOnlySlashes (directory path) = false) :
    (directory path).length < path.length := by
  obtain ⟨count, spelled, ⟨slashes, _⟩ | ⟨_, _, positive⟩⟩ := exists_slashes path
  · rw [slashes] at named
    cases named
  · have lengths := congrArg String.length spelled
    simp only [String.length_append, String.length_ofList, List.length_replicate] at lengths
    omega

/-- A path in no directory stays as it is. -/
theorem join_empty (path : String) : join "" path = path := by
  simp [join]

/-- Nothing that is joined leaves a slash at the end. -/
theorem fileName_join_empty (base : String) : fileName (join base "") = "" := by
  by_contra named
  obtain ⟨nonempty, noTrailing⟩ := fileName_ne_empty_iff.mp named
  unfold join at nonempty noTrailing
  rw [if_neg (by decide)] at nonempty noTrailing
  split at noTrailing
  · rename_i bare
    rw [if_pos bare] at nonempty
    rcases bare with empty | trailing
    · exact nonempty (by rw [empty]; rfl)
    · exact noTrailing (by simpa using trailing)
  · exact noTrailing (by simp)

end Path

namespace Pattern

/-- Wildcards are no slashes. -/
theorem isOnlySlashes_of_hasWildcard {pattern : String} (wild : hasWildcard pattern = true) :
    Path.isOnlySlashes pattern = false := by
  rw [hasWildcard, List.any_eq_true] at wild
  obtain ⟨character, member, special⟩ := wild
  rw [Path.isOnlySlashes, List.all_eq_false]
  refine ⟨character, member, ?_⟩
  rintro slash
  rw [beq_iff_eq.mp slash] at special
  cases special

/-- A directory with wildcards ends in a name. -/
theorem fileName_directory_of_hasWildcard {pattern : String}
    (wild : hasWildcard (Path.directory pattern) = true) :
    Path.fileName (Path.directory pattern) ≠ "" :=
  (Path.isTrimmed_directory pattern).resolve_left (by simp [isOnlySlashes_of_hasWildcard wild])

/-- A segment with wildcards is a name. -/
theorem isName_of_hasWildcard {segment : String} (wild : hasWildcard segment = true)
    (noSlash : '/' ∉ segment.toList) : Path.IsName segment where
  nonempty := by
    rintro rfl
    cases wild
  notHere := by
    rintro rfl
    cases wild
  notParent := by
    rintro rfl
    cases wild
  noSlash := noSlash

namespace Search

variable {search : Search} {depth : Nat} {directoriesOnly : Bool}
  {pattern directory segment found name : String}

section Rounds

/-- A pattern without wildcards is looked up. -/
theorem expandUpTo_of_plain (plain : hasWildcard pattern = false) :
    search.expandUpTo (depth + 1) directoriesOnly pattern =
      if Path.fileName pattern = "" then
        if search.tree.isDirectory search.workingDirectory (Path.directory pattern) then [pattern]
        else []
      else if search.tree.holds search.workingDirectory pattern then [pattern]
      else [] := by
  rw [expandUpTo, plain, Bool.not_false, if_pos rfl]

/-- A pattern without wildcards is its only match, if it exists. -/
theorem mem_expandUpTo_of_plain (plain : hasWildcard pattern = false) :
    found ∈ search.expandUpTo (depth + 1) directoriesOnly pattern ↔
      found = pattern ∧
        if Path.fileName pattern = "" then
          search.tree.isDirectory search.workingDirectory (Path.directory pattern) = true
        else search.tree.holds search.workingDirectory pattern = true := by
  rw [expandUpTo_of_plain plain]
  by_cases trailing : Path.fileName pattern = "" <;> simp only [trailing, if_true, if_false]
  all_goals
    split
    · rename_i stands
      simp [stands]
    · rename_i absent
      simp [absent]

/-- The directories in which the last segment of a pattern is looked for. -/
def directoriesFor (search : Search) (depth : Nat) (pattern : String) : List String :=
  if hasWildcard (Path.directory pattern) then search.expandUpTo depth true (Path.directory pattern)
  else [Path.directory pattern]

/-- With wildcards, the last segment of a pattern is looked for in one directory after the other. -/
theorem expandUpTo_of_wildcard (wild : hasWildcard pattern = true) :
    search.expandUpTo (depth + 1) directoriesOnly pattern =
      (search.directoriesFor depth pattern).flatMap fun directory =>
        (search.step directory (Path.fileName pattern) directoriesOnly).map
          (Path.join directory) := by
  rw [expandUpTo, wild, if_neg (by simp)]
  dsimp only
  by_cases bare : Path.directory pattern = ""
  · have plain : hasWildcard "" = false := by decide
    have unchanged : Path.join "" = id := funext Path.join_empty
    rw [if_pos bare, directoriesFor, bare, plain]
    simp [unchanged]
  · have shorter : hasWildcard (Path.directory pattern) = true →
        Path.directory pattern ≠ pattern := by
      intro wildDirectory same
      have less := Path.length_directory_lt (isOnlySlashes_of_hasWildcard wildDirectory)
      rw [same] at less
      omega
    rw [if_neg bare, directoriesFor]
    by_cases wildDirectory : hasWildcard (Path.directory pattern) = true
    · rw [if_pos ⟨shorter wildDirectory, wildDirectory⟩, if_pos wildDirectory]
    · rw [if_neg fun both => wildDirectory both.2, if_neg wildDirectory]

/-- A pattern with wildcards matches what its last segment matches in one of the directories. -/
theorem mem_expandUpTo_of_wildcard (wild : hasWildcard pattern = true) :
    found ∈ search.expandUpTo (depth + 1) directoriesOnly pattern ↔
      ∃ directory ∈ search.directoriesFor depth pattern,
        ∃ name ∈ search.step directory (Path.fileName pattern) directoriesOnly,
          found = Path.join directory name := by
  rw [expandUpTo_of_wildcard wild]
  simp only [List.mem_flatMap, List.mem_map, eq_comm]

/-- A name in a directory is joined to it. -/
theorem member_eq_join (nonempty : name ≠ "") (directory : String) :
    member directory name = Path.join directory name := by
  unfold member
  split
  · rename_i empty
    rw [empty, Path.join_empty]
  · rfl

/-- The matches in a directory are the names it lists that match. -/
theorem mem_matchesIn_iff :
    name ∈ search.matchesIn directory segment directoriesOnly ↔
      ∃ node, (name, node) ∈ search.tree.list search.workingDirectory (listed directory) ∧
        isWanted directoriesOnly node = true ∧ matchesName segment name = true := by
  unfold matchesIn
  rw [List.mem_filterMap]
  constructor
  · rintro ⟨⟨entryName, node⟩, listed, shown⟩
    split at shown
    · rename_i wanted
      rw [Option.some.injEq] at shown
      rw [Bool.and_eq_true] at wanted
      subst shown
      exact ⟨node, listed, wanted.1, wanted.2⟩
    · cases shown
  · rintro ⟨node, listed, wanted, matched⟩
    exact ⟨(name, node), listed, by simp [wanted, matched]⟩

/-- A path is found below itself; in a strict search only a directory is, or the working directory
when it is spelled by nothing. -/
theorem mem_itself_iff :
    name ∈ search.itself directory ↔
      name = "" ∧ (search.strictAnyDepth = true → directory = "" ∨
        search.tree.isDirectory search.workingDirectory directory = true) := by
  unfold itself
  split
  · rename_i refused
    obtain ⟨strict, named, absent⟩ := refused
    simp [strict, named, absent]
  · rename_i given
    rw [List.mem_singleton, iff_self_and]
    intro _ strict
    by_contra absent
    rw [not_or] at absent
    exact given ⟨strict, absent⟩

/-- At any depth a directory and all below it are found, unless a name on the way is hidden. -/
theorem mem_allBelow_iff :
    name ∈ search.allBelow directory directoriesOnly ↔
      name ∈ search.itself directory ∨ ∃ way node,
        (way, node) ∈ search.tree.contents search.workingDirectory (listed directory) ∧
        isWanted directoriesOnly node = true ∧ (∀ step ∈ way, isHidden step = false) ∧
        name = Text.joinStrings "/" way := by
  unfold allBelow
  rw [List.mem_append, List.mem_filterMap]
  refine or_congr Iff.rfl ?_
  constructor
  · rintro ⟨⟨way, node⟩, listed, shown⟩
    split at shown
    · rename_i wanted
      rw [Option.some.injEq] at shown
      rw [Bool.and_eq_true, List.all_eq_true] at wanted
      exact ⟨way, node, listed, wanted.1, by simpa using wanted.2, shown.symm⟩
    · cases shown
  · rintro ⟨way, node, listed, wanted, visible, shown⟩
    refine ⟨(way, node), listed, ?_⟩
    rw [if_pos, shown]
    rw [Bool.and_eq_true, List.all_eq_true]
    exact ⟨wanted, by simpa using visible⟩

/-- What a segment matches in a directory: names that its wildcards match, ways down to any depth,
or the segment itself. -/
theorem mem_step_cases (matched : name ∈ search.step directory segment directoriesOnly) :
    (hasWildcard segment = true ∧ name ∈ search.matchesIn directory segment directoriesOnly) ∨
      (search.recursive = true ∧ segment = anyDepth ∧
        name ∈ search.allBelow directory directoriesOnly) ∨
      (hasWildcard segment = false ∧ name = segment ∧ (segment = "" ∨
        search.tree.holds search.workingDirectory (Path.join directory segment) = true)) := by
  unfold step at matched
  split at matched
  · rename_i wild
    split at matched
    · rename_i deep
      exact .inr (.inl ⟨deep.1, deep.2, matched⟩)
    · exact .inl ⟨wild, matched⟩
  · rename_i wild
    refine .inr (.inr ⟨by simpa using wild, ?_⟩)
    split at matched
    · rename_i empty
      split at matched
      · exact ⟨List.mem_singleton.mp matched, .inl empty⟩
      · cases matched
    · split at matched
      · rename_i stands
        rw [member_eq_join ‹_›] at stands
        exact ⟨List.mem_singleton.mp matched, .inr stands⟩
      · cases matched

/-- The empty path is dropped from the matches at most. -/
theorem mem_expand_iff (nonempty : found ≠ "") :
    found ∈ search.expand pattern ↔
      found ∈ search.expandUpTo (pattern.length + 1) false pattern := by
  unfold expand
  dsimp only
  split
  · split
    · rename_i shown
      rw [shown, List.mem_cons]
      simp [nonempty]
    · rfl
  · rfl

end Rounds

section Existing

/-- The directory that is listed is the one that the names lead to. -/
theorem walk_of_locate_listed {location : Location}
    (located : search.tree.locate search.workingDirectory (listed directory) = .ok location) :
    search.tree.walk (FileTree.startOf search.workingDirectory directory)
      (Path.names directory) = .ok location := by
  have walked := FileTree.walk_names_of_locate located
  unfold listed at walked
  split at walked
  · rename_i empty
    have here : Path.names "." = ["."] := by decide
    rw [here, FileTree.walk_cons_of_directory (FileTree.directory_of_walk_cons walked)] at walked
    rw [empty, Path.names_empty]
    exact walked
  · exact walked

/-- What is listed below a directory is found behind the directory. -/
theorem find?_join_of_mem_contents (wellFormed : search.tree.IsWellFormed) {way : Location}
    {node : Node}
    (member : (way, node) ∈ search.tree.contents search.workingDirectory (listed directory)) :
    search.tree.find? search.workingDirectory
      (Path.join directory (Text.joinStrings "/" way)) = some node := by
  obtain ⟨location, located, _, down, entry⟩ := FileTree.mem_contents_iff.mp member
  exact wellFormed.find?_join_of_walk (walk_of_locate_listed located) down
    (wellFormed.stands _ entry)

/-- One name needs no slash. -/
theorem joinStrings_singleton (name : String) : Text.joinStrings "/" [name] = name := by
  simp [Text.joinStrings, Text.joinWith]

/-- Whatever a segment matches in a directory exists, the directory itself apart. -/
theorem holds_of_mem_step (wellFormed : search.tree.IsWellFormed)
    (matched : name ∈ search.step directory segment directoriesOnly) (nonempty : name ≠ "") :
    search.tree.holds search.workingDirectory (Path.join directory name) = true := by
  rcases mem_step_cases matched with ⟨_, inside⟩ | ⟨_, _, below⟩ |
    ⟨_, rfl, empty | stands⟩
  · obtain ⟨node, entry, _, _⟩ := mem_matchesIn_iff.mp inside
    rw [FileTree.holds_iff, ← joinStrings_singleton name]
    exact ⟨node, find?_join_of_mem_contents wellFormed (FileTree.mem_list_iff.mp entry)⟩
  · rcases mem_allBelow_iff.mp below with empty | ⟨way, node, entry, _, _, rfl⟩
    · exact absurd (mem_itself_iff.mp empty).1 nonempty
    · exact FileTree.holds_iff.mpr ⟨node, find?_join_of_mem_contents wellFormed entry⟩
  · exact absurd empty nonempty
  · exact stands

/-- Whatever matches a pattern exists, unless it ends in a slash. -/
theorem holds_of_mem_expandUpTo (wellFormed : search.tree.IsWellFormed)
    (member : found ∈ search.expandUpTo depth directoriesOnly pattern)
    (named : Path.fileName found ≠ "") :
    search.tree.holds search.workingDirectory found = true := by
  cases depth with
  | zero => cases member
  | succ depth =>
    cases wild : hasWildcard pattern with
    | false =>
      obtain ⟨rfl, stands⟩ := (mem_expandUpTo_of_plain wild).mp member
      rwa [if_neg named] at stands
    | true =>
      obtain ⟨directory, _, name, matched, rfl⟩ := (mem_expandUpTo_of_wildcard wild).mp member
      refine holds_of_mem_step wellFormed matched ?_
      rintro rfl
      exact named (Path.fileName_join_empty directory)

end Existing

section Matching

/-- The names of a path without brackets match themselves. -/
theorem matchesItself_of_mem_names {path : String} (noBracket : '[' ∉ path.toList) :
    ∀ name ∈ Path.names path, MatchesItself name := by
  intro name member
  apply matches_atoms_of_noBracket
  intro bracket
  obtain ⟨part, cut, rfl⟩ := List.mem_map.mp (List.mem_filter.mp member).1
  rw [String.toList_ofList] at bracket
  exact noBracket (Text.mem_of_mem_splitAt cut bracket)

/-- A path that leads down by as many names as a pattern has, which match one by one, from where
the pattern starts. -/
structure Follows (pattern found : String) : Prop where
  start : Path.isAbsolute found = Path.isAbsolute pattern
  areNames : ∀ name ∈ Path.names found, Path.IsName name
  matched : List.Forall₂ (fun segment name => matchesName segment name = true)
    (Path.names pattern) (Path.names found)

/-- A path without wildcards is followed by itself. -/
theorem follows_self {path : String} (areNames : ∀ name ∈ Path.names path, Path.IsName name)
    (plain : hasWildcard path = false) : Follows path path where
  start := rfl
  areNames := areNames
  matched := List.forall₂_same.mpr fun name member => matchesName_self_iff.mpr
    (matchesItself_of_mem_names (noBracket_of_hasWildcard plain) name member)

/-- One more name, which matches the last segment. -/
theorem Follows.join (outer : Follows (Path.directory pattern) directory)
    (named : Path.fileName pattern ≠ "") (isName : Path.IsName name)
    (matched : matchesName (Path.fileName pattern) name = true) :
    Follows pattern (Path.join directory name) := by
  have relative := Path.isAbsolute_of_noSlash isName.noSlash
  have cut : Path.names (Path.join directory name) = Path.names directory ++ [name] := by
    rw [Path.names_join relative, Path.names_of_noSlash isName.nonempty isName.noSlash]
  refine ⟨?_, ?_, ?_⟩
  · rw [← Path.isAbsolute_directory pattern, ← outer.start]
    exact Path.isAbsolute_join_of_relative directory relative
  · rw [cut, List.forall_mem_append]
    exact ⟨outer.areNames, by simpa using isName⟩
  · rw [cut, Path.names_of_fileName named]
    exact List.rel_append outer.matched (.cons matched .nil)

/-- Unless it stands for any depth, one segment matches one name. -/
theorem matchesName_of_mem_step (wellFormed : search.tree.IsWellFormed)
    (flat : search.recursive = true → segment ≠ anyDepth) (isName : Path.IsName segment)
    (matched : name ∈ search.step directory segment directoriesOnly) :
    matchesName segment name = true ∧ Path.IsName name := by
  rcases mem_step_cases matched with ⟨_, inside⟩ | ⟨deep, same, _⟩ | ⟨plain, rfl, _⟩
  · obtain ⟨node, entry, _, here⟩ := mem_matchesIn_iff.mp inside
    obtain ⟨location, _, _, _, listed⟩ :=
      FileTree.mem_contents_iff.mp (FileTree.mem_list_iff.mp entry)
    exact ⟨here, wellFormed.named _ listed name (by simp)⟩
  · exact absurd same (flat deep)
  · exact ⟨matchesName_self_iff.mpr
      (matches_atoms_of_noBracket (noBracket_of_hasWildcard plain)), isName⟩

/-- Whatever matches a pattern follows it, if the names of the pattern only lead down and none of
them stands for any depth. -/
theorem follows_of_mem_expandUpTo (wellFormed : search.tree.IsWellFormed)
    (named : Path.fileName pattern ≠ "")
    (areNames : ∀ name ∈ Path.names pattern, Path.IsName name)
    (flat : search.recursive = true → anyDepth ∉ Path.names pattern)
    (matched : found ∈ search.expandUpTo depth directoriesOnly pattern) :
    Follows pattern found := by
  induction depth generalizing pattern found directoriesOnly with
  | zero => cases matched
  | succ depth inductionHypothesis =>
    cases wild : hasWildcard pattern with
    | false =>
      obtain ⟨rfl, _⟩ := (mem_expandUpTo_of_plain wild).mp matched
      exact follows_self areNames wild
    | true =>
      obtain ⟨directory, among, name, here, rfl⟩ := (mem_expandUpTo_of_wildcard wild).mp matched
      rw [Path.names_of_fileName named] at flat areNames
      have outerNames : ∀ name ∈ Path.names (Path.directory pattern), Path.IsName name :=
        fun name member => areNames name (List.mem_append_left _ member)
      have outerFlat (deep : search.recursive = true) :
          anyDepth ∉ Path.names (Path.directory pattern) :=
        fun member => flat deep (List.mem_append_left _ member)
      have outer : Follows (Path.directory pattern) directory := by
        unfold directoriesFor at among
        split at among
        · rename_i wildDirectory
          exact inductionHypothesis (fileName_directory_of_hasWildcard wildDirectory) outerNames
            outerFlat among
        · rename_i plainDirectory
          rw [List.mem_singleton.mp among]
          exact follows_self outerNames (by simpa using plainDirectory)
      obtain ⟨nameMatches, isName⟩ := matchesName_of_mem_step wellFormed
        (fun deep same => flat deep (by simp [same])) (areNames _ (by simp)) here
      exact outer.join named isName nameMatches

end Matching

section Itself

/-- A directory that is reached by its names can be listed. -/
theorem locate_listed (trimmed : Path.IsTrimmed directory) {location : Location}
    (walked : search.tree.walk (FileTree.startOf search.workingDirectory directory)
      (Path.names directory) = .ok location)
    (isDirectory : search.tree.node? location = some .directory) :
    search.tree.locate search.workingDirectory (listed directory) = .ok location := by
  unfold listed
  split
  · rename_i empty
    have here : search.tree.locate search.workingDirectory "." =
        search.tree.walk (FileTree.startOf search.workingDirectory ".") (Path.names ".") :=
      FileTree.locate_eq_walk_names (by decide)
    have start : location = FileTree.startOf search.workingDirectory "." := by
      rw [empty, Path.names_empty] at walked
      exact (Except.ok.inj walked).symm
    have dot : Path.names "." = ["."] := by decide
    rw [here, ← start, dot, FileTree.walk_cons_of_directory isDirectory]
    rfl
  · rename_i nonempty
    rcases trimmed with slashes | named
    · have root : search.tree.locate search.workingDirectory directory = .ok [] :=
        search.tree.locate_of_isOnlySlashes nonempty slashes
      rwa [FileTree.walk_names_of_locate root, ← root] at walked
    · rw [FileTree.locate_eq_walk_names named]
      exact walked

/-- A segment that matches itself finds the name that it spells. -/
theorem mem_step_self {location : Location} {node : Node} (nonempty : segment ≠ "")
    (noSlash : '/' ∉ segment.toList) (matchesItself : MatchesItself segment)
    (located : search.tree.locate search.workingDirectory (listed directory) = .ok location)
    (isDirectory : search.tree.node? location = some .directory)
    (stands : search.tree.node? (FileTree.stepTo location segment) = some node)
    (wanted : isWanted directoriesOnly node = true)
    (found : search.tree.holds search.workingDirectory (Path.join directory segment) = true) :
    segment ∈ search.step directory segment directoriesOnly := by
  unfold step
  split
  · rename_i wild
    have isName := isName_of_hasWildcard wild noSlash
    rw [FileTree.stepTo_name isName] at stands
    have entry : ([segment], node) ∈
        search.tree.contents search.workingDirectory (listed directory) :=
      FileTree.mem_contents_iff.mpr ⟨location, located, isDirectory, by simp,
        FileTree.mem_nodes_of_node? (by simp) stands⟩
    split
    · rename_i deep
      refine mem_allBelow_iff.mpr (.inr ⟨[segment], node, entry, wanted, ?_, ?_⟩)
      · rw [deep.2]
        decide
      · exact (joinStrings_singleton segment).symm
    · exact mem_matchesIn_iff.mpr ⟨node, FileTree.mem_list_iff.mpr entry, wanted,
        matchesName_self_iff.mpr matchesItself⟩
  · rw [member_eq_join nonempty, if_pos found]
    exact List.mem_singleton_self segment

/-- A file name that matches itself is found in any spelling of its directory. -/
theorem join_mem_expandUpTo {node : Node} (wild : hasWildcard pattern = true)
    (named : Path.fileName pattern ≠ "") (matchesItself : MatchesItself (Path.fileName pattern))
    (stands : search.tree.find? search.workingDirectory pattern = some node)
    (wanted : isWanted directoriesOnly node = true)
    (among : directory ∈ search.directoriesFor depth pattern)
    (same : Path.SameWay (Path.directory pattern) directory) (trimmed : Path.IsTrimmed directory) :
    ∃ found ∈ search.expandUpTo (depth + 1) directoriesOnly pattern,
      Path.SameWay pattern found ∧ Path.fileName found ≠ "" := by
  have noSlash := Path.noSlash_fileName pattern
  obtain ⟨location, located, here⟩ := FileTree.find?_eq_some_iff.mp stands
  obtain ⟨parent, walked, isDirectory, rfl⟩ := FileTree.exists_parent_of_locate named located
  have listable : search.tree.locate search.workingDirectory (listed directory) = .ok parent := by
    refine locate_listed trimmed ?_ isDirectory
    rw [FileTree.startOf, ← same.isAbsolute_eq, ← same.names]
    exact walked
  have respelled := same.join_fileName named
  have foundNamed : Path.fileName (Path.join directory (Path.fileName pattern)) ≠ "" := by
    apply Path.fileName_join_ne_empty
    rwa [Path.fileName_of_noSlash noSlash]
  have foundThere : search.tree.holds search.workingDirectory
      (Path.join directory (Path.fileName pattern)) = true := by
    rw [FileTree.holds_iff, ← FileTree.find?_eq_of_sameWay respelled named foundNamed]
    exact ⟨node, stands⟩
  have matched : Path.fileName pattern ∈
      search.step directory (Path.fileName pattern) directoriesOnly :=
    mem_step_self named noSlash matchesItself listable isDirectory here wanted foundThere
  exact ⟨_, (mem_expandUpTo_of_wildcard wild).mpr ⟨directory, among, _, matched, rfl⟩, respelled,
    foundNamed⟩

/-- A path whose names match themselves finds what stands there, up to repeated slashes. -/
theorem exists_mem_expandUpTo {node : Node} (named : Path.fileName pattern ≠ "")
    (matchThemselves : ∀ name ∈ Path.names pattern, MatchesItself name)
    (deep : pattern.length < depth)
    (stands : search.tree.find? search.workingDirectory pattern = some node)
    (wanted : isWanted directoriesOnly node = true) :
    ∃ found ∈ search.expandUpTo depth directoriesOnly pattern,
      Path.SameWay pattern found ∧ Path.fileName found ≠ "" := by
  induction depth generalizing pattern directoriesOnly node with
  | zero => omega
  | succ depth inductionHypothesis =>
    cases wild : hasWildcard pattern with
    | false =>
      refine ⟨pattern, (mem_expandUpTo_of_plain wild).mpr ⟨rfl, ?_⟩, .refl pattern, named⟩
      rw [if_neg named]
      exact FileTree.holds_iff.mpr ⟨node, stands⟩
    | true =>
      rw [Path.names_of_fileName named] at matchThemselves
      have lastMatches := matchThemselves (Path.fileName pattern) (by simp)
      cases wildDirectory : hasWildcard (Path.directory pattern) with
      | false =>
        refine join_mem_expandUpTo wild named lastMatches stands wanted ?_ (.refl _)
          (Path.isTrimmed_directory pattern)
        rw [directoriesFor, if_neg (by simp [wildDirectory])]
        exact List.mem_singleton_self _
      | true =>
        -- The directory stands on the way to what stands at the path, so it is found first.
        have shorter := Path.length_directory_lt (isOnlySlashes_of_hasWildcard wildDirectory)
        have directoryNamed := fileName_directory_of_hasWildcard wildDirectory
        obtain ⟨location, located, _⟩ := FileTree.find?_eq_some_iff.mp stands
        obtain ⟨parent, walked, isDirectory, _⟩ :=
          FileTree.exists_parent_of_locate named located
        have directoryStands : search.tree.find? search.workingDirectory
            (Path.directory pattern) = some .directory := by
          refine FileTree.find?_eq_some_iff.mpr ⟨parent, ?_, isDirectory⟩
          rw [FileTree.locate_eq_walk_names directoryNamed, walked]
        obtain ⟨directory, among, same, foundNamed⟩ :
            ∃ directory ∈ search.expandUpTo depth true (Path.directory pattern),
              Path.SameWay (Path.directory pattern) directory ∧ Path.fileName directory ≠ "" :=
          inductionHypothesis directoryNamed
            (fun name member => matchThemselves name (List.mem_append_left _ member)) (by omega)
            directoryStands rfl
        refine join_mem_expandUpTo wild named lastMatches stands wanted ?_ same (.inr foundNamed)
        rwa [directoriesFor, if_pos wildDirectory]

end Itself

end Search

end Pattern

end ServiceStubs
