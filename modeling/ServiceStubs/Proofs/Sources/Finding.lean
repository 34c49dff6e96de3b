import ServiceStubs.Proofs.Pattern.Expansion
import ServiceStubs.Proofs.Sources.Collection

/-!
# Finding files

What a selection collects exists and ends as schema files do. It is a file, unless a pattern
matched a directory that ends so. In the other direction, a file that is named literally is found
if its names match themselves when they are read as patterns; brackets may keep them from that.
-/

namespace ServiceStubs

namespace Path

/-- The ending of a schema file belongs to its file name. -/
theorem isSchemaFile_fileName (path : String) :
    Name.isSchemaFile (fileName path) = Name.isSchemaFile path := by
  have noSlash : Name.schemaSuffix.toList.reverse.all (· != '/') = true := by decide
  rw [Bool.eq_iff_iff, Name.isSchemaFile, Name.isSchemaFile, Text.endsWith, Text.endsWith,
    List.isSuffixOf_iff_suffix, List.isSuffixOf_iff_suffix, ← List.reverse_prefix,
    ← List.reverse_prefix, fileName, String.toList_ofList, List.reverse_reverse]
  constructor
  · intro ending
    exact ending.trans (List.takeWhile_prefix _)
  · intro ending
    obtain ⟨rest, split⟩ := ending
    rw [← split, List.takeWhile_append_of_pos (List.all_eq_true.mp noSlash)]
    exact List.prefix_append _ _

/-- A schema file has a name. -/
theorem fileName_of_isSchemaFile {path : String} (schema : Name.isSchemaFile path = true) :
    fileName path ≠ "" := by
  intro empty
  rw [← isSchemaFile_fileName, empty] at schema
  cases schema

/-- The empty path is no schema file. -/
theorem ne_empty_of_isSchemaFile {path : String} (schema : Name.isSchemaFile path = true) :
    path ≠ "" :=
  (fileName_ne_empty_iff.mp (fileName_of_isSchemaFile schema)).1

/-- Spellings of one way end in one file name. -/
theorem SameWay.fileName_eq {left right : String} (same : SameWay left right)
    (leftNamed : fileName left ≠ "") (rightNamed : fileName right ≠ "") :
    fileName left = fileName right := by
  have names := same.names
  rw [names_of_fileName leftNamed, names_of_fileName rightNamed] at names
  exact List.singleton_inj.mp (List.append_inj' names rfl).2

/-- A path whose names only lead down ends that far below where it starts. -/
theorem place_join_of_names (base : String) {path : String}
    (areNames : ∀ name ∈ names path, IsName name) :
    place (join base path) = (if isAbsolute path then [] else place base) ++ names path := by
  rw [place_join]
  split
  · exact walk_names [] areNames
  · exact walk_names (place base) areNames

/-- One absolute path is one place. -/
theorem place_join_of_absolute_eq {workingDirectory left right : String}
    (rooted : isAbsolute workingDirectory = true)
    (same : absolute workingDirectory left = absolute workingDirectory right) :
    place (join workingDirectory left) = place (join workingDirectory right) := by
  rw [← names_absolute rooted, ← names_absolute rooted, same]

end Path

namespace Pattern.Search

variable {search : Search} {path found : String}

section Existing

/-- A file that is listed below a directory is a file. -/
theorem isFile_of_mem_contents (wellFormed : search.tree.IsWellFormed) {way : Location}
    {bytes : List UInt8}
    (listed : (way, .file bytes) ∈ search.tree.contents search.workingDirectory path) :
    search.tree.isFile search.workingDirectory
      (Path.join path (Text.joinStrings "/" way)) = true := by
  obtain ⟨location, located, _, down, entry⟩ := FileTree.mem_contents_iff.mp listed
  exact FileTree.isFile_iff.mpr ⟨bytes, wellFormed.find?_join_of_walk
    (FileTree.walk_names_of_locate located) down (wellFormed.stands _ entry)⟩

/-- What is found below a directory exists and is a file. -/
theorem isFile_of_mem_filesBelow (wellFormed : search.tree.IsWellFormed)
    (member : found ∈ search.filesBelow path) :
    search.tree.isFile search.workingDirectory found = true := by
  obtain ⟨⟨way, node⟩, listed, shown⟩ := List.mem_filterMap.mp member
  cases node with
  | directory => cases shown
  | file bytes =>
    rw [← Option.some.inj shown]
    exact isFile_of_mem_contents wellFormed listed

/-- What is found in a directory exists and is a file. -/
theorem isFile_of_mem_filesIn (wellFormed : search.tree.IsWellFormed)
    (member : found ∈ search.filesIn path) :
    search.tree.isFile search.workingDirectory found = true := by
  obtain ⟨⟨name, node⟩, listed, shown⟩ := List.mem_filterMap.mp member
  cases node with
  | directory => cases shown
  | file bytes =>
    rw [← Option.some.inj shown, ← joinStrings_singleton name]
    exact isFile_of_mem_contents wellFormed (FileTree.mem_list_iff.mp listed)

/-- The schema files of a path are the candidates with the right ending. -/
theorem mem_schemaFiles_iff :
    found ∈ search.schemaFiles path ↔
      found ∈ search.candidates path ∧ Name.isSchemaFile found = true := by
  rw [schemaFiles, sorted, List.mem_mergeSort, List.mem_filter]

/-- What an expression names is a file, or else a directory that its wildcards match. -/
theorem isFile_or_matched (wellFormed : search.tree.IsWellFormed)
    (member : found ∈ search.schemaFiles path) :
    search.tree.isFile search.workingDirectory found = true ∨
      (search.tree.isDirectory search.workingDirectory found = true ∧
        search.tree.isDirectory search.workingDirectory path = false ∧
        hasWildcard path = true ∧ found ∈ search.expand path) := by
  obtain ⟨candidate, schema⟩ := mem_schemaFiles_iff.mp member
  unfold candidates at candidate
  split at candidate
  · left
    split at candidate
    · exact isFile_of_mem_filesBelow wellFormed candidate
    · exact isFile_of_mem_filesIn wellFormed candidate
  · rename_i notDirectory
    have named := Path.fileName_of_isSchemaFile schema
    have matched := (mem_expand_iff (Path.ne_empty_of_isSchemaFile schema)).mp candidate
    rcases FileTree.isFile_or_isDirectory (holds_of_mem_expandUpTo wellFormed matched named) with
      isFile | isDirectory
    · exact .inl isFile
    · refine .inr ⟨isDirectory, by simpa using notDirectory, ?_, candidate⟩
      cases wild : hasWildcard path with
      | true => rfl
      | false =>
        -- Without wildcards the expression itself would be the directory.
        rw [((mem_expandUpTo_of_plain wild).mp matched).1] at isDirectory
        exact absurd isDirectory notDirectory

end Existing

section Literal

variable (search) (isFile : search.tree.isFile search.workingDirectory path = true)
  (schema : Name.isSchemaFile path = true)

include isFile in
/-- A file is looked for as a pattern. -/
theorem candidates_of_isFile : search.candidates path = search.expand path := by
  obtain ⟨bytes, found⟩ := FileTree.isFile_iff.mp isFile
  rw [candidates, if_neg]
  intro isDirectory
  rw [FileTree.isDirectory_iff.mp isDirectory] at found
  cases found

include isFile schema in
/-- A file is found by its own path if all names of the path match themselves. -/
theorem mem_schemaFiles_of_matchesItself
    (rooted : Path.isAbsolute search.workingDirectory = true)
    (matchThemselves : ∀ name ∈ Path.names path, MatchesItself name) :
    Path.absolute search.workingDirectory path ∈
      (search.schemaFiles path).map (Path.absolute search.workingDirectory) := by
  have named := Path.fileName_of_isSchemaFile schema
  obtain ⟨bytes, stands⟩ := FileTree.isFile_iff.mp isFile
  obtain ⟨found, matched, same, foundNamed⟩ :
      ∃ found ∈ search.expandUpTo (path.length + 1) false path,
        Path.SameWay path found ∧ Path.fileName found ≠ "" :=
    exists_mem_expandUpTo named matchThemselves (Nat.lt_succ_self _) stands rfl
  have foundSchema : Name.isSchemaFile found = true := by
    rw [← Path.isSchemaFile_fileName, ← same.fileName_eq named foundNamed,
      Path.isSchemaFile_fileName, schema]
  refine List.mem_map.mpr ⟨found, mem_schemaFiles_iff.mpr ⟨?_, foundSchema⟩, ?_⟩
  · rw [search.candidates_of_isFile isFile]
    exact (mem_expand_iff (Path.ne_empty_of_isSchemaFile foundSchema)).mpr matched
  · exact (same.absolute_eq rooted).symm

/-- A way that follows a pattern and leads to where the pattern does has the same names. -/
theorem Follows.names_eq {workingDirectory : String} (follows : Follows path found)
    (areNames : ∀ name ∈ Path.names path, Path.IsName name)
    (rooted : Path.isAbsolute workingDirectory = true)
    (same : Path.absolute workingDirectory found = Path.absolute workingDirectory path) :
    Path.names found = Path.names path := by
  have places := Path.place_join_of_absolute_eq rooted same
  rw [Path.place_join_of_names _ follows.areNames, Path.place_join_of_names _ areNames,
    follows.start] at places
  exact List.append_cancel_left places

include isFile schema in
/-- If the names only lead down and none stands for any depth, a file is found by its own path
exactly if they match themselves. -/
theorem mem_schemaFiles_iff_matchesItself (wellFormed : search.tree.IsWellFormed)
    (rooted : Path.isAbsolute search.workingDirectory = true)
    (areNames : ∀ name ∈ Path.names path, Path.IsName name)
    (flat : search.recursive = true → anyDepth ∉ Path.names path) :
    Path.absolute search.workingDirectory path ∈
        (search.schemaFiles path).map (Path.absolute search.workingDirectory) ↔
      ∀ name ∈ Path.names path, MatchesItself name := by
  refine ⟨?_, search.mem_schemaFiles_of_matchesItself isFile schema rooted⟩
  intro listed name member
  obtain ⟨found, picked, same⟩ := List.mem_map.mp listed
  obtain ⟨candidate, foundSchema⟩ := mem_schemaFiles_iff.mp picked
  rw [search.candidates_of_isFile isFile,
    mem_expand_iff (Path.ne_empty_of_isSchemaFile foundSchema)] at candidate
  have follows := follows_of_mem_expandUpTo wellFormed (Path.fileName_of_isSchemaFile schema)
    areNames flat candidate
  have matched := follows.matched
  rw [follows.names_eq areNames rooted same] at matched
  exact matchesName_self_iff.mp (List.forall₂_same.mp matched name member)

end Literal

end Pattern.Search

namespace Selection

open ServiceStubs.Path

variable {tree : FileTree} {workingDirectory : String}

/-- Two paths with one absolute path find the same, if both find something. -/
theorem node_eq_of_absolute_eq (rooted : isAbsolute workingDirectory = true)
    (normal : names workingDirectory = place workingDirectory) {left right : String}
    {leftNode rightNode : Node} (leftFound : tree.find? workingDirectory left = some leftNode)
    (rightFound : tree.find? workingDirectory right = some rightNode)
    (same : absolute workingDirectory left = absolute workingDirectory right) :
    leftNode = rightNode := by
  have leftStands := FileTree.node?_place_of_find? normal leftFound
  rw [place_join_of_absolute_eq rooted same,
    FileTree.node?_place_of_find? normal rightFound] at leftStands
  exact (Option.some.inj leftStands).symm

/-- Every source is named by some path. -/
theorem mem_namedFiles_of_mem_sources {selection : Selection} {root path : String}
    (member : path ∈ selection.sources tree workingDirectory root) :
    path ∈ selection.namedFiles tree workingDirectory root :=
  (withoutRepeats_sublist _ _ _).subset member

/-- A source is a file, or else a directory that a pattern of the selection matches. -/
theorem isFile_or_matched_of_mem_sources (wellFormed : tree.IsWellFormed) {selection : Selection}
    {root path : String} (member : path ∈ selection.sources tree workingDirectory root) :
    tree.isFile workingDirectory path = true ∨
      tree.isDirectory workingDirectory path = true ∧
        ∃ given ∈ selection.paths,
          tree.isDirectory workingDirectory (join root given) = false ∧
          Pattern.hasWildcard (join root given) = true ∧
          path ∈ (selection.search tree workingDirectory).expand (join root given) := by
  obtain ⟨given, among, named⟩ := List.mem_flatMap.mp (mem_namedFiles_of_mem_sources member)
  rcases Pattern.Search.isFile_or_matched wellFormed named with
    isFile | ⟨isDirectory, notDirectory, wild, matched⟩
  · exact .inl isFile
  · exact .inr ⟨isDirectory, given, among, notDirectory, wild, matched⟩

/-- Every source is a schema file. -/
theorem isSchemaFile_of_mem_sources {selection : Selection} {root path : String}
    (member : path ∈ selection.sources tree workingDirectory root) :
    Name.isSchemaFile path = true := by
  obtain ⟨given, _, named⟩ := List.mem_flatMap.mp (mem_namedFiles_of_mem_sources member)
  exact (Pattern.Search.mem_schemaFiles_iff.mp named).2

/-- The place of a file that is named and not excluded is that of a source. -/
theorem exists_source_of_named {selection : Selection} {root path : String}
    (named : path ∈ selection.namedFiles tree workingDirectory root)
    (kept : absolute workingDirectory path ∉
      selection.excludedPaths tree workingDirectory root) :
    ∃ source ∈ selection.sources tree workingDirectory root,
      absolute workingDirectory source = absolute workingDirectory path :=
  List.mem_map.mp (mem_map_withoutRepeats_iff.mpr ⟨List.mem_map_of_mem named, kept⟩)

/-- No source is excluded. -/
theorem not_excluded_of_mem_sources {selection : Selection} {root path : String}
    (member : path ∈ selection.sources tree workingDirectory root) :
    absolute workingDirectory path ∉ selection.excludedPaths tree workingDirectory root :=
  (mem_map_withoutRepeats_iff.mp (List.mem_map_of_mem member)).2

/-- All sources exist and end as schema files do, and they are files unless a pattern matched a
directory that ends so. They are all files exactly if such directories are excluded. -/
theorem sources_exist (wellFormed : tree.IsWellFormed)
    (rooted : isAbsolute workingDirectory = true)
    (normal : names workingDirectory = place workingDirectory) (selection : Selection)
    (root : String) :
    (∀ path ∈ selection.sources tree workingDirectory root, Name.isSchemaFile path = true ∧
      (tree.isFile workingDirectory path = true ∨
        tree.isDirectory workingDirectory path = true ∧
          ∃ given ∈ selection.paths,
            tree.isDirectory workingDirectory (join root given) = false ∧
            Pattern.hasWildcard (join root given) = true ∧
            path ∈ (selection.search tree workingDirectory).expand (join root given))) ∧
    ((∀ path ∈ selection.sources tree workingDirectory root,
        tree.isFile workingDirectory path = true) ↔
      ∀ path ∈ selection.namedFiles tree workingDirectory root,
        tree.isDirectory workingDirectory path = true →
          absolute workingDirectory path ∈
            selection.excludedPaths tree workingDirectory root) := by
  refine ⟨?_, ?_, ?_⟩
  · intro path member
    exact ⟨isSchemaFile_of_mem_sources member, isFile_or_matched_of_mem_sources wellFormed member⟩
  · intro allFiles path named isDirectory
    by_contra kept
    -- The first way to the same place would be a source, and a file.
    obtain ⟨source, member, same⟩ := exists_source_of_named named kept
    obtain ⟨bytes, isFile⟩ := FileTree.isFile_iff.mp (allFiles source member)
    cases node_eq_of_absolute_eq rooted normal isFile (FileTree.isDirectory_iff.mp isDirectory)
      same
  · intro allExcluded path member
    rcases isFile_or_matched_of_mem_sources wellFormed member with isFile | ⟨isDirectory, _⟩
    · exact isFile
    · have excluded := allExcluded path (mem_namedFiles_of_mem_sources member) isDirectory
      exact absurd excluded (not_excluded_of_mem_sources member)

/-- A directory that ends as a schema file does, and files whose paths read as patterns. -/
def oddProject : FileTree :=
  ⟨[(["p"], .directory), (["p", "d.proto"], .directory), (["p", "w?y"], .directory),
    (["p", "w?y", "c.proto"], .file []), (["p", "w?y", "a[1].proto"], .file []),
    (["p", "w?y", "[[]*.proto"], .file [])]⟩

/-- The directory is named and excluded, so only a file is left. -/
theorem sources_exist_without_directory :
    let selection : Selection := { paths := ["d*.proto", "w?y/c*"], excludes := ["d.proto"] }
    selection.namedFiles oddProject "/p" "" = ["d.proto", "w?y/c.proto"] ∧
      oddProject.isDirectory "/p" "d.proto" = true ∧
      selection.sources oddProject "/p" "" = ["w?y/c.proto"] ∧
      ∀ path ∈ selection.sources oddProject "/p" "", oddProject.isFile "/p" path = true := by
  refine ⟨by decide +kernel, by decide +kernel, by decide +kernel, ?_⟩
  exact (sources_exist (by decide +kernel) rfl (by decide +kernel) _ _).2.mpr (by decide +kernel)

/-- A directory is collected if a pattern matches it. -/
theorem directory_among_sources :
    let selection : Selection := { paths := ["d*.proto"] }
    selection.sources oddProject "/p" "" = ["d.proto"] ∧
      oddProject.isFile "/p" "d.proto" = false := by
  decide +kernel

/-- A file that a selection names literally is found if all names of the path match themselves;
without an opening bracket they do. If the names only lead down, the literal path finds the file in
no other case. -/
theorem literal_path_found (rooted : isAbsolute workingDirectory = true) {selection : Selection}
    {root given : String} (among : given ∈ selection.paths)
    (isFile : tree.isFile workingDirectory (join root given) = true)
    (schema : Name.isSchemaFile (join root given) = true)
    (kept : absolute workingDirectory (join root given) ∉
      selection.excludedPaths tree workingDirectory root) :
    ((∀ name ∈ names (join root given), Pattern.MatchesItself name) →
      absolute workingDirectory (join root given) ∈
        (selection.sources tree workingDirectory root).map (absolute workingDirectory)) ∧
    ('[' ∉ (join root given).toList →
      ∀ name ∈ names (join root given), Pattern.MatchesItself name) ∧
    (tree.IsWellFormed → (∀ name ∈ names (join root given), IsName name) →
      (selection.recursive = true → Pattern.anyDepth ∉ names (join root given)) →
      (absolute workingDirectory (join root given) ∈
          ((selection.search tree workingDirectory).schemaFiles (join root given)).map
            (absolute workingDirectory) ↔
        ∀ name ∈ names (join root given), Pattern.MatchesItself name)) := by
  refine ⟨?_, Pattern.Search.matchesItself_of_mem_names, ?_⟩
  · intro matchThemselves
    have listed := (selection.search tree workingDirectory).mem_schemaFiles_of_matchesItself
      isFile schema rooted matchThemselves
    obtain ⟨found, picked, same⟩ :
        ∃ found ∈ (selection.search tree workingDirectory).schemaFiles (join root given),
          absolute workingDirectory found = absolute workingDirectory (join root given) :=
      List.mem_map.mp listed
    have named : found ∈ selection.namedFiles tree workingDirectory root :=
      List.mem_flatMap.mpr ⟨given, among, picked⟩
    rw [← same] at kept
    obtain ⟨source, member, sameSource⟩ := exists_source_of_named named kept
    exact List.mem_map.mpr ⟨source, member, sameSource.trans same⟩
  · intro wellFormed areNames flat
    exact (selection.search tree workingDirectory).mem_schemaFiles_iff_matchesItself isFile schema
      wellFormed rooted areNames flat

/-- Wildcards in the root, and brackets in a name that matches itself. -/
theorem literal_path_found_with_brackets :
    let selection : Selection := { paths := ["[[]*.proto"] }
    join "w?y" "[[]*.proto" = "w?y/[[]*.proto" ∧
      oddProject.isFile "/p" "w?y/[[]*.proto" = true ∧
      absolute "/p" "w?y/[[]*.proto" ∈
        (selection.sources oddProject "/p" "w?y").map (absolute "/p") := by
  intro selection
  have spelled : join "w?y" "[[]*.proto" = "w?y/[[]*.proto" := by decide +kernel
  have isFile : oddProject.isFile "/p" (join "w?y" "[[]*.proto") = true := by decide +kernel
  have kept : absolute "/p" (join "w?y" "[[]*.proto") ∉
      selection.excludedPaths oddProject "/p" "w?y" := by decide +kernel
  have found := (literal_path_found rfl (List.mem_singleton_self _) isFile (by decide +kernel)
    kept).1 (by decide +kernel)
  rw [spelled] at isFile found
  exact ⟨spelled, isFile, found⟩

/-- A file is not found by its own path if its name does not match itself. -/
theorem literal_path_missed :
    let selection : Selection := { paths := ["w?y/a[1].proto"] }
    oddProject.isFile "/p" "w?y/a[1].proto" = true ∧
      Name.isSchemaFile "w?y/a[1].proto" = true ∧
      selection.excludedPaths oddProject "/p" "" = [] ∧
      selection.sources oddProject "/p" "" = [] := by
  decide +kernel

end Selection

end ServiceStubs
