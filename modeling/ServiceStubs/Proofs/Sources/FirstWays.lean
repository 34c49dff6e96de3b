import Mathlib.Data.List.Forall2
import ServiceStubs.Proofs.Pattern.Meaning
import ServiceStubs.Proofs.Sources.Finding

/-!
# First ways

What a selection collects, said by what its expressions mean in the tree: a directory stands for
the files in it, or with recursion for all files below it, and anything else is a pattern; an
exclude is a file or a pattern. The schema files of each expression are listed by code points, and
the sources are the first ways to the places in these listings that no exclude takes away.
-/

namespace ServiceStubs

section Ordering

/-- The code points of a text. -/
def codePoints (text : String) : List Nat :=
  text.toList.map Char.toNat

/-- Texts that none of the later ones comes before, by code points. -/
def IsAscending (texts : List String) : Prop :=
  texts.Pairwise fun earlier later => ¬ List.Lex (· < ·) (codePoints later) (codePoints earlier)

/-- What comes first by code points comes first in the order of texts. -/
theorem lt_of_lex_codePoints {left right : String}
    (first : List.Lex (· < ·) (codePoints left) (codePoints right)) : left < right := by
  rw [String.lt_iff]
  unfold codePoints at first
  generalize left.toList = lefts at first ⊢
  generalize right.toList = rights at first ⊢
  induction lefts generalizing rights with
  | nil =>
    cases rights with
    | nil => cases first
    | cons character others => exact .nil
  | cons character others inductionHypothesis =>
    cases rights with
    | nil => cases first
    | cons other rest =>
      rw [List.map_cons, List.map_cons, List.cons_lex_cons_iff] at first
      rcases first with smaller | ⟨same, later⟩
      · exact .rel (Char.lt_def.mpr smaller)
      · rw [Char.toNat_inj.mp same]
        exact .cons (inductionHypothesis rest later)

/-- Sorted texts are in ascending order of their code points. -/
theorem isAscending_sorted (texts : List String) : IsAscending (sorted texts) := by
  refine (pairwise_sorted texts).imp ?_
  intro earlier later ordered before
  exact String.not_lt.mpr ordered (lt_of_lex_codePoints before)

end Ordering

namespace Pattern.Search

variable {search : Search} {path found target : String}

/-- The paths that an expression names. -/
inductive Names (search : Search) (path : String) : String → Prop where
  /-- The directory is walked: all files below it. -/
  | below {way : Location} {bytes : List UInt8} (deep : search.recursive = true)
      (stands : search.tree.StandsBelow search.workingDirectory path way (.file bytes)) :
      Names search path (Path.join path (Text.joinStrings "/" way))
  /-- The directory is listed: the files in it. -/
  | inside {name : String} {bytes : List UInt8} (flat : search.recursive = false)
      (stands : search.tree.StandsBelow search.workingDirectory path [name] (.file bytes)) :
      Names search path (Path.join path name)
  /-- Anything else is a pattern. -/
  | matched {found : String}
      (noDirectory : search.tree.find? search.workingDirectory path ≠ some .directory)
      (isMatch : search.IsMatch false path found) :
      Names search path found

/-- The absolute paths that an expression excludes. -/
inductive Excludes (search : Search) (path : String) : String → Prop where
  /-- A file. -/
  | file {bytes : List UInt8}
      (isFile : search.tree.find? search.workingDirectory path = some (.file bytes)) :
      Excludes search path (Path.absolute search.workingDirectory path)
  /-- Anything else is a pattern. -/
  | matched {found : String}
      (noFile : ∀ bytes, search.tree.find? search.workingDirectory path ≠ some (.file bytes))
      (nonempty : found ≠ "") (isMatch : search.IsMatch false path found) :
      Excludes search path (Path.absolute search.workingDirectory found)

/-- Something stands below a path only if the path leads to a directory. -/
theorem isDirectory_of_standsBelow {way : Location} {node : Node}
    (below : search.tree.StandsBelow search.workingDirectory path way node) :
    search.tree.isDirectory search.workingDirectory path = true := by
  obtain ⟨location, located, isDirectory, _⟩ := below
  exact FileTree.isDirectory_iff.mpr
    (FileTree.find?_eq_some_iff.mpr ⟨location, located, isDirectory⟩)

/-- A walk finds the files below a directory. -/
theorem mem_filesBelow_iff (wellFormed : search.tree.IsWellFormed) :
    found ∈ search.filesBelow path ↔
      ∃ way bytes, search.tree.StandsBelow search.workingDirectory path way (.file bytes) ∧
        found = Path.join path (Text.joinStrings "/" way) := by
  unfold filesBelow
  rw [List.mem_filterMap]
  constructor
  · rintro ⟨⟨way, node⟩, entry, shown⟩
    cases node with
    | directory => cases shown
    | file bytes =>
      exact ⟨way, bytes, wellFormed.mem_contents_iff_standsBelow.mp entry,
        (Option.some.inj shown).symm⟩
  · rintro ⟨way, bytes, below, rfl⟩
    exact ⟨(way, .file bytes), wellFormed.mem_contents_iff_standsBelow.mpr below, rfl⟩

/-- A listing finds the files in a directory. -/
theorem mem_filesIn_iff (wellFormed : search.tree.IsWellFormed) :
    found ∈ search.filesIn path ↔
      ∃ name bytes, search.tree.StandsBelow search.workingDirectory path [name] (.file bytes) ∧
        found = Path.join path name := by
  unfold filesIn
  rw [List.mem_filterMap]
  constructor
  · rintro ⟨⟨name, node⟩, entry, shown⟩
    cases node with
    | directory => cases shown
    | file bytes =>
      exact ⟨name, bytes, wellFormed.mem_list_iff_standsBelow.mp entry,
        (Option.some.inj shown).symm⟩
  · rintro ⟨name, bytes, below, rfl⟩
    exact ⟨(name, .file bytes), wellFormed.mem_list_iff_standsBelow.mpr below, rfl⟩

/-- The candidates of an expression are the paths that it names. -/
theorem mem_candidates_iff (wellFormed : search.tree.IsWellFormed) (nonempty : found ≠ "") :
    found ∈ search.candidates path ↔ search.Names path found := by
  unfold candidates
  constructor
  · intro candidate
    split at candidate
    · split at candidate
      · rename_i deep
        obtain ⟨way, bytes, below, rfl⟩ := (mem_filesBelow_iff wellFormed).mp candidate
        exact .below deep below
      · rename_i flat
        obtain ⟨name, bytes, inside, rfl⟩ := (mem_filesIn_iff wellFormed).mp candidate
        exact .inside (by simpa using flat) inside
    · rename_i notDirectory
      exact .matched (fun isDirectory => notDirectory (FileTree.isDirectory_iff.mpr isDirectory))
        ((mem_expand_iff_isMatch wellFormed).mp candidate).2
  · intro named
    cases named with
    | below deep stands =>
      rw [if_pos (isDirectory_of_standsBelow stands), if_pos deep]
      exact (mem_filesBelow_iff wellFormed).mpr ⟨_, _, stands, rfl⟩
    | inside flat stands =>
      rw [if_pos (isDirectory_of_standsBelow stands), if_neg (by simp [flat])]
      exact (mem_filesIn_iff wellFormed).mpr ⟨_, _, stands, rfl⟩
    | matched noDirectory isMatch =>
      rw [if_neg fun isDirectory => noDirectory (FileTree.isDirectory_iff.mp isDirectory)]
      exact (mem_expand_iff_isMatch wellFormed).mpr ⟨nonempty, isMatch⟩

/-- An expression excludes a file, or else what it matches. -/
theorem mem_excluded_iff (wellFormed : search.tree.IsWellFormed) :
    target ∈ search.excluded path ↔ search.Excludes path target := by
  unfold excluded
  rw [List.mem_map]
  constructor
  · rintro ⟨found, among, rfl⟩
    split at among
    · rename_i isFile
      obtain ⟨bytes, isFile⟩ := FileTree.isFile_iff.mp isFile
      rw [List.mem_singleton.mp among]
      exact .file isFile
    · rename_i notFile
      obtain ⟨nonempty, isMatch⟩ := (mem_expand_iff_isMatch wellFormed).mp among
      exact .matched (fun bytes isFile => notFile (FileTree.isFile_iff.mpr ⟨bytes, isFile⟩))
        nonempty isMatch
  · intro excludes
    cases excludes with
    | file isFile =>
      rw [if_pos (FileTree.isFile_iff.mpr ⟨_, isFile⟩)]
      exact ⟨path, List.mem_singleton_self path, rfl⟩
    | @matched found noFile nonempty isMatch =>
      rw [if_neg]
      · exact ⟨found, (mem_expand_iff_isMatch wellFormed).mpr ⟨nonempty, isMatch⟩, rfl⟩
      · intro isFile
        obtain ⟨bytes, isFile⟩ := FileTree.isFile_iff.mp isFile
        exact noFile bytes isFile

/-- A path that ends as schema files do. -/
theorem isSchemaFile_iff : Name.isSchemaFile path = true ↔ ∃ stem, path = stem ++ ".proto" := by
  rw [Name.isSchemaFile, Text.endsWith, List.isSuffixOf_iff_suffix]
  constructor
  · rintro ⟨stem, spelled⟩
    refine ⟨String.ofList stem, String.toList_injective ?_⟩
    rw [String.toList_append, String.toList_ofList, ← spelled]
    rfl
  · rintro ⟨stem, rfl⟩
    rw [String.toList_append]
    exact List.suffix_append _ _

/-- The listing of an expression: all the paths that it names and that end as schema files do, by
code points. -/
structure IsListing (search : Search) (path : String) (listing : List String) : Prop where
  ascending : IsAscending listing
  members : ∀ found,
    found ∈ listing ↔ search.Names path found ∧ ∃ stem, found = stem ++ ".proto"

/-- The schema files of an expression are listed so. -/
theorem isListing_schemaFiles (wellFormed : search.tree.IsWellFormed) (path : String) :
    search.IsListing path (search.schemaFiles path) where
  ascending := isAscending_sorted _
  members := by
    intro found
    rw [mem_schemaFiles_iff, ← isSchemaFile_iff]
    refine and_congr_left fun schema => ?_
    exact mem_candidates_iff wellFormed (Path.ne_empty_of_isSchemaFile schema)

end Pattern.Search

namespace Selection

open ServiceStubs.Path

/-- Sources against the listings of the expressions of a selection, put together in the order of
the selection. -/
structure Collects (selection : Selection) (tree : FileTree) (workingDirectory root : String)
    (listings : List (List String)) (sources : List String) : Prop where
  /-- Each expression has its listing. -/
  listed : List.Forall₂
    (fun path => (selection.search tree workingDirectory).IsListing (join root path))
    selection.paths listings
  /-- The sources stand in the order of the listings. -/
  ordered : sources.Sublist listings.flatten
  /-- No two of them lead to one place. -/
  distinct : (sources.map (absolute workingDirectory)).Nodup
  /-- They lead to the listed places that no expression excludes. -/
  places : ∀ target, target ∈ sources.map (absolute workingDirectory) ↔
    target ∈ listings.flatten.map (absolute workingDirectory) ∧
      ∀ exclude ∈ selection.excludes,
        ¬(selection.search tree workingDirectory).Excludes (join root exclude) target
  /-- Each is the first way to its place. -/
  first : ∀ path ∈ sources, listings.flatten.find?
    (fun other => absolute workingDirectory other = absolute workingDirectory path) = some path

/-- In a tree that is a file system, the sources of a selection are the first ways to the listed
places that are not excluded. -/
theorem sources_are_first_ways {tree : FileTree} (wellFormed : tree.IsWellFormed)
    (selection : Selection) (workingDirectory root : String) :
    ∃ listings, selection.Collects tree workingDirectory root listings
      (selection.sources tree workingDirectory root) := by
  let search := selection.search tree workingDirectory
  have searchWellFormed : search.tree.IsWellFormed := wellFormed
  have excluded (target : String) :
      target ∉ selection.excludedPaths tree workingDirectory root ↔
        ∀ exclude ∈ selection.excludes, ¬search.Excludes (join root exclude) target := by
    rw [excludedPaths, List.mem_flatMap]
    simp only [not_exists, not_and, ← Pattern.Search.mem_excluded_iff searchWellFormed]
    rfl
  refine ⟨selection.paths.map fun path => search.schemaFiles (join root path), ?_, ?_, ?_, ?_, ?_⟩
  · rw [List.forall₂_map_right_iff, List.forall₂_same]
    exact fun path _ => Pattern.Search.isListing_schemaFiles searchWellFormed _
  · rw [← List.flatMap_def]
    exact withoutRepeats_sublist _ _ _
  · exact nodup_map_withoutRepeats _ _ _
  · intro target
    rw [← List.flatMap_def, ← excluded]
    exact mem_map_withoutRepeats_iff
  · intro path member
    rw [← List.flatMap_def]
    exact find?_of_mem_withoutRepeats member

/-- A project with a nested directory. -/
def layeredProject : FileTree :=
  ⟨[(["p"], .directory), (["p", "b.proto"], .file []), (["p", "a.proto"], .file []),
    (["p", "lib"], .directory), (["p", "lib", "in"], .directory),
    (["p", "lib", "in", "c.proto"], .file []), (["p", "old"], .directory),
    (["p", "old", "in"], .directory), (["p", "old", "in", "d.proto"], .file [])]⟩

/-- Two ways to one file, two directories to walk, an exclude that is a file and one that is a
pattern. -/
def layeredSelection : Selection where
  paths := ["./b.proto", "b*", "a.proto", "lib", "old"]
  excludes := ["a.proto", "old/**"]
  recursive := true

/-- The first way to the one file stays, and the excluded files are gone. -/
theorem layered_sources_are_first_ways :
    layeredProject.IsWellFormed ∧
      layeredSelection.sources layeredProject "/p" "" = ["./b.proto", "lib/in/c.proto"] ∧
      ∃ listings, layeredSelection.Collects layeredProject "/p" "" listings
        ["./b.proto", "lib/in/c.proto"] := by
  have wellFormed : layeredProject.IsWellFormed := by decide
  have collected : layeredSelection.sources layeredProject "/p" "" =
      ["./b.proto", "lib/in/c.proto"] := by
    decide +kernel
  refine ⟨wellFormed, collected, ?_⟩
  rw [← collected]
  exact sources_are_first_ways wellFormed layeredSelection "/p" ""

end Selection

end ServiceStubs
