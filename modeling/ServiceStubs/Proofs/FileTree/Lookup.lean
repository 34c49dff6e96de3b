import Mathlib.Data.List.Induction
import ServiceStubs.Proofs.FileTree.Growth
import ServiceStubs.Proofs.Path.Respelling

/-!
# Looking up what a tree lists

A tree is kept as a list of places. It stands for a file system if every entry is what stands at
its place, names are names, and whatever stands somewhere stands in a directory. In such a tree the
entries below a directory are found by the paths that lead to them. A path that is found leads to
the place that its spelling stands for, since there are no links.
-/

namespace ServiceStubs

instance (segment : String) : Decidable (Path.IsName segment) :=
  decidable_of_iff (segment ≠ "" ∧ segment ≠ "." ∧ segment ≠ ".." ∧ '/' ∉ segment.toList)
    ⟨fun ⟨nonempty, notHere, notParent, noSlash⟩ => ⟨nonempty, notHere, notParent, noSlash⟩,
      fun ⟨nonempty, notHere, notParent, noSlash⟩ => ⟨nonempty, notHere, notParent, noSlash⟩⟩

namespace FileTree

/-- A tree that is a file system without links. -/
structure IsWellFormed (tree : FileTree) : Prop where
  stands : ∀ entry ∈ tree.nodes, tree.node? entry.1 = some entry.2
  named : ∀ entry ∈ tree.nodes, ∀ name ∈ entry.1, Path.IsName name
  housed : ∀ entry ∈ tree.nodes, tree.node? entry.1.dropLast = some .directory

instance (tree : FileTree) : Decidable tree.IsWellFormed :=
  decidable_of_iff
    ((∀ entry ∈ tree.nodes, tree.node? entry.1 = some entry.2) ∧
      (∀ entry ∈ tree.nodes, ∀ name ∈ entry.1, Path.IsName name) ∧
      ∀ entry ∈ tree.nodes, tree.node? entry.1.dropLast = some .directory)
    ⟨fun ⟨stands, named, housed⟩ => ⟨stands, named, housed⟩,
      fun ⟨stands, named, housed⟩ => ⟨stands, named, housed⟩⟩

section Standing

variable {tree : FileTree} {location way : Location} {node : Node}

/-- What stands at a place other than the root is listed. -/
theorem mem_nodes_of_node? (notRoot : location ≠ []) (stands : tree.node? location = some node) :
    (location, node) ∈ tree.nodes := by
  rw [node?, if_neg notRoot, Option.map_eq_some_iff] at stands
  obtain ⟨entry, found, rfl⟩ := stands
  have here : entry.1 = location := by simpa using List.find?_some found
  rw [← here]
  exact List.mem_of_find?_eq_some found

/-- All that lies on the way to something is a directory. -/
theorem IsWellFormed.directory_of_append (wellFormed : tree.IsWellFormed) (down : way ≠ [])
    (stands : tree.node? (location ++ way) = some node) :
    tree.node? location = some .directory := by
  induction way using List.reverseRecOn generalizing node with
  | nil => exact absurd rfl down
  | append_singleton way name inductionHypothesis =>
    have listed := mem_nodes_of_node? (by simp) stands
    have parent := wellFormed.housed _ listed
    rw [← List.append_assoc, List.dropLast_concat] at parent
    by_cases last : way = []
    · rwa [last, List.append_nil] at parent
    · exact inductionHypothesis last parent

/-- Places are reached through names. -/
theorem IsWellFormed.isName_of_append (wellFormed : tree.IsWellFormed)
    (stands : tree.node? (location ++ way) = some node) : ∀ name ∈ way, Path.IsName name := by
  intro name member
  have notRoot : location ++ way ≠ [] := by
    simp [List.ne_nil_of_mem member]
  exact wellFormed.named _ (mem_nodes_of_node? notRoot stands) name
    (List.mem_append_right location member)

/-- A name leads one step down. -/
theorem stepTo_name {name : String} (isName : Path.IsName name) (location : Location) :
    stepTo location name = location ++ [name] := by
  simp [stepTo, isName.nonempty, isName.notHere, isName.notParent]

/-- The way to something can be walked. -/
theorem IsWellFormed.walk_append_of_stands (wellFormed : tree.IsWellFormed)
    (stands : tree.node? (location ++ way) = some node) :
    tree.walk location way = .ok (location ++ way) := by
  induction way generalizing location with
  | nil => simp [walk]
  | cons name others inductionHypothesis =>
    have isDirectory := wellFormed.directory_of_append (by simp) stands
    have isName := wellFormed.isName_of_append stands name List.mem_cons_self
    rw [List.append_cons] at stands ⊢
    rw [walk_cons_of_directory isDirectory, stepTo_name isName]
    exact inductionHypothesis stands

end Standing

section Listing

variable {tree : FileTree} {workingDirectory path : String} {node : Node}

/-- What lies below a place is what the tree holds at longer places. -/
theorem mem_below_iff {location way : Location} :
    (way, node) ∈ tree.below location ↔ way ≠ [] ∧ (location ++ way, node) ∈ tree.nodes := by
  unfold below
  rw [List.mem_filterMap]
  constructor
  · rintro ⟨⟨place, stands⟩, listed, shown⟩
    split at shown
    · rename_i inside
      rw [Bool.and_eq_true, List.isPrefixOf_iff_prefix, decide_eq_true_eq] at inside
      obtain ⟨⟨rest, rfl⟩, longer⟩ := inside
      rw [List.drop_left, Option.some.injEq, Prod.mk.injEq] at shown
      obtain ⟨rfl, rfl⟩ := shown
      refine ⟨?_, listed⟩
      rintro rfl
      simp at longer
    · cases shown
  · rintro ⟨down, listed⟩
    have longer : 0 < way.length := List.length_pos_iff.mpr down
    refine ⟨_, listed, ?_⟩
    rw [if_pos]
    · simp
    · rw [Bool.and_eq_true, List.isPrefixOf_iff_prefix, decide_eq_true_eq, List.length_append]
      exact ⟨List.prefix_append _ _, by omega⟩

/-- The contents of a path are what lies below the directory that it leads to. -/
theorem mem_contents_iff {way : Location} :
    (way, node) ∈ tree.contents workingDirectory path ↔
      ∃ location, tree.locate workingDirectory path = .ok location ∧
        tree.node? location = some .directory ∧ way ≠ [] ∧
        (location ++ way, node) ∈ tree.nodes := by
  unfold contents
  cases located : tree.locate workingDirectory path with
  | error fault => simp
  | ok location =>
    cases stands : tree.node? location with
    | none => simp [stands]
    | some inner =>
      cases inner with
      | file bytes => simp [stands]
      | directory => simp [stands, mem_below_iff]

/-- A directory lists what lies one step below it. -/
theorem mem_list_iff {name : String} :
    (name, node) ∈ tree.list workingDirectory path ↔
      ([name], node) ∈ tree.contents workingDirectory path := by
  unfold list
  rw [List.mem_filterMap]
  constructor
  · rintro ⟨⟨way, stands⟩, listed, shown⟩
    split at shown
    · rename_i single
      simp only at single
      rw [Option.some.injEq, Prod.mk.injEq] at shown
      rw [single] at listed
      obtain ⟨rfl, rfl⟩ := shown
      exact listed
    · cases shown
  · intro listed
    exact ⟨_, listed, rfl⟩

end Listing

section Locating

variable {tree : FileTree} {workingDirectory path : String}

/-- A walk that succeeds also succeeds without its empty segments. -/
theorem walk_filter_of_walk {location target : Location} {segments : List String}
    (walked : tree.walk location segments = .ok target) :
    tree.walk location (segments.filter (· != "")) = .ok target := by
  induction segments generalizing location with
  | nil => exact walked
  | cons segment others inductionHypothesis =>
    have isDirectory := directory_of_walk_cons walked
    rw [walk_cons_of_directory isDirectory] at walked
    by_cases empty : segment = ""
    · rw [List.filter_cons_of_neg (by simp [empty])]
      exact inductionHypothesis (by simpa [stepTo, empty] using walked)
    · rw [List.filter_cons_of_pos (by simp [empty]), walk_cons_of_directory isDirectory]
      exact inductionHypothesis walked

/-- An empty segment needs a directory, as the segment after it does. So empty segments make no
difference as long as the last one is not empty. -/
theorem walk_filter_of_last (tree : FileTree) (location : Location) {segments : List String}
    (last : segments.getLast? ≠ some "") :
    tree.walk location (segments.filter (· != "")) = tree.walk location segments := by
  induction segments generalizing location with
  | nil => rfl
  | cons segment others inductionHypothesis =>
    cases others with
    | nil =>
      have nonempty : segment ≠ "" := by simpa using last
      rw [List.filter_cons_of_pos (by simp [nonempty]), List.filter_nil]
    | cons next rest =>
      have lastLater : (next :: rest).getLast? ≠ some "" := by
        rwa [List.getLast?_cons_cons] at last
      by_cases empty : segment = ""
      · rw [List.filter_cons_of_neg (by simp [empty]), inductionHypothesis location lastLater]
        rcases stands : tree.node? location with _ | ⟨bytes⟩ | _
        · simp [walk, stands]
        · simp [walk, stands]
        · rw [walk_cons_of_directory stands segment, stepTo, if_pos (.inl empty)]
      · rw [List.filter_cons_of_pos (by simp [empty]), walk, walk]
        simp only [inductionHypothesis _ lastLater]

/-- A joined path starts where its base starts. -/
theorem startOf_join (base : String) {rest : String} (relative : Path.isAbsolute rest = false) :
    startOf workingDirectory (Path.join base rest) = startOf workingDirectory base := by
  rw [startOf, startOf, Path.isAbsolute_join_of_relative base relative]

/-- A path that leads somewhere leads there by its names. -/
theorem walk_names_of_locate {location : Location}
    (located : tree.locate workingDirectory path = .ok location) :
    tree.walk (startOf workingDirectory path) (Path.names path) = .ok location := by
  unfold locate at located
  split at located
  · cases located
  · exact walk_filter_of_walk located

/-- A path with a file name is looked up by its names. -/
theorem locate_eq_walk_names (named : Path.fileName path ≠ "") :
    tree.locate workingDirectory path =
      tree.walk (startOf workingDirectory path) (Path.names path) := by
  have last : (Path.segments path).getLast? ≠ some "" := by
    rw [Path.getLast?_segments]
    simpa using named
  rw [locate, if_neg (Path.fileName_ne_empty_iff.mp named).1, Path.names,
    walk_filter_of_last tree _ last]

/-- What a path with a file name leads to is one step away from its directory. -/
theorem exists_parent_of_locate (named : Path.fileName path ≠ "") {location : Location}
    (located : tree.locate workingDirectory path = .ok location) :
    ∃ parent,
      tree.walk (startOf workingDirectory (Path.directory path))
        (Path.names (Path.directory path)) = .ok parent ∧
      tree.node? parent = some .directory ∧ location = stepTo parent (Path.fileName path) := by
  have start : startOf workingDirectory (Path.directory path) = startOf workingDirectory path := by
    rw [startOf, startOf, Path.isAbsolute_directory]
  rw [locate_eq_walk_names named, Path.names_of_fileName named, walk_append, ← start] at located
  cases walked : tree.walk (startOf workingDirectory (Path.directory path))
      (Path.names (Path.directory path)) with
  | error fault => simp [walked, Except.bind] at located
  | ok parent =>
    simp only [walked, Except.bind] at located
    have isDirectory := directory_of_walk_cons located
    rw [walk_cons_of_directory isDirectory] at located
    exact ⟨parent, rfl, isDirectory, (Except.ok.inj located).symm⟩

/-- One segment leads to the same place in a tree and on paper. -/
theorem walk_singleton_eq_stepTo {location : Location} (areNames : ∀ name ∈ location, name ≠ "..")
    (segment : String) : Path.walk location [segment] = stepTo location segment := by
  unfold stepTo
  split
  · simp [Path.walk, Path.pushSegment, *]
  · split
    · rename_i parent
      subst parent
      rcases List.eq_nil_or_concat location with rfl | ⟨front, last, rfl⟩
      · rfl
      · have named : last ≠ ".." := areNames last (by simp)
        simp [Path.walk, Path.pushSegment, named]
    · simp [Path.walk, Path.pushSegment, *]

/-- No step leaves a parent segment in a place. -/
theorem notParent_of_mem_stepTo {location : Location} (areNames : ∀ name ∈ location, name ≠ "..")
    (segment : String) : ∀ name ∈ stepTo location segment, name ≠ ".." := by
  unfold stepTo
  split
  · exact areNames
  · split
    · exact fun name member => areNames name ((List.dropLast_sublist _).subset member)
    · rename_i notParent
      intro name member
      rcases List.mem_append.mp member with earlier | last
      · exact areNames name earlier
      · rwa [List.mem_singleton.mp last]

/-- A walk that succeeds leads where its segments lead on paper. -/
theorem eq_walk_of_walk {location target : Location} {segments : List String}
    (areNames : ∀ name ∈ location, name ≠ "..")
    (walked : tree.walk location segments = .ok target) : target = Path.walk location segments := by
  induction segments generalizing location with
  | nil => simpa [walk] using walked.symm
  | cons segment others inductionHypothesis =>
    rw [walk_cons_of_directory (directory_of_walk_cons walked)] at walked
    rw [← List.singleton_append, Path.walk_append, walk_singleton_eq_stepTo areNames]
    exact inductionHypothesis (notParent_of_mem_stepTo areNames segment) walked

end Locating

section Finding

variable {tree : FileTree} {workingDirectory path : String} {node : Node}

/-- What stands at a path is what stands at the place that it leads to. -/
theorem find?_eq_some_iff :
    tree.find? workingDirectory path = some node ↔
      ∃ location, tree.locate workingDirectory path = .ok location ∧
        tree.node? location = some node := by
  unfold find?
  cases tree.locate workingDirectory path <;> simp

/-- A path exists if something stands there. -/
theorem holds_iff :
    tree.holds workingDirectory path = true ↔
      ∃ node, tree.find? workingDirectory path = some node := by
  rw [holds, Option.isSome_iff_exists]

/-- A path is a file if a file stands there. -/
theorem isFile_iff :
    tree.isFile workingDirectory path = true ↔
      ∃ bytes, tree.find? workingDirectory path = some (.file bytes) := by
  unfold isFile
  rcases tree.find? workingDirectory path with _ | ⟨bytes⟩ | _ <;> simp

/-- A path is a directory if a directory stands there. -/
theorem isDirectory_iff :
    tree.isDirectory workingDirectory path = true ↔
      tree.find? workingDirectory path = some .directory := by
  unfold isDirectory
  rcases tree.find? workingDirectory path with _ | ⟨bytes⟩ | _ <;> simp

/-- What exists is a file or a directory. -/
theorem isFile_or_isDirectory (found : tree.holds workingDirectory path = true) :
    tree.isFile workingDirectory path = true ∨
      tree.isDirectory workingDirectory path = true := by
  obtain ⟨node, stands⟩ := holds_iff.mp found
  cases node with
  | file bytes => exact .inl (isFile_iff.mpr ⟨bytes, stands⟩)
  | directory => exact .inr (isDirectory_iff.mpr stands)

/-- Repeated slashes make no difference to what is found. -/
theorem find?_eq_of_sameWay {other : String} (same : Path.SameWay path other)
    (named : Path.fileName path ≠ "") (otherNamed : Path.fileName other ≠ "") :
    tree.find? workingDirectory path = tree.find? workingDirectory other := by
  rw [find?, find?, locate_eq_walk_names named, locate_eq_walk_names otherNamed, startOf, startOf,
    same.isAbsolute_eq, same.names]

/-- What lies below a directory is found by the way there. -/
theorem IsWellFormed.find?_join_of_walk (wellFormed : tree.IsWellFormed) {location way : Location}
    (walked : tree.walk (startOf workingDirectory path) (Path.names path) = .ok location)
    (down : way ≠ []) (stands : tree.node? (location ++ way) = some node) :
    tree.find? workingDirectory (Path.join path (Text.joinStrings "/" way)) = some node := by
  have areNames := wellFormed.isName_of_append stands
  have clean : ∀ name ∈ way, name ≠ "" ∧ '/' ∉ name.toList :=
    fun name member => (areNames name member).clean
  have relative := Path.isAbsolute_joinStrings clean
  have named : Path.fileName (Path.join path (Text.joinStrings "/" way)) ≠ "" := by
    have last := Path.getLast?_segments (Text.joinStrings "/" way)
    have cut : Path.segments (Text.joinStrings "/" way) = way :=
      Text.splitString_joinStrings down fun name member => (clean name member).2
    rw [cut] at last
    exact Path.fileName_join_ne_empty (clean _ (List.mem_of_getLast? last)).1 path
  refine find?_eq_some_iff.mpr ⟨location ++ way, ?_, stands⟩
  rw [locate_eq_walk_names named, startOf_join path relative, Path.names_join relative,
    Path.names_joinStrings clean, walk_append, walked]
  exact wellFormed.walk_append_of_stands stands

/-- A path that is found stands for its place, so that it does not matter how it is spelled. -/
theorem node?_place_of_find?
    (normal : Path.names workingDirectory = Path.place workingDirectory)
    (found : tree.find? workingDirectory path = some node) :
    tree.node? (Path.place (Path.join workingDirectory path)) = some node := by
  obtain ⟨location, located, stands⟩ := find?_eq_some_iff.mp found
  have startNames : ∀ name ∈ startOf workingDirectory path, name ≠ ".." := by
    unfold startOf
    split
    · simp
    · rw [normal]
      exact fun name member => (Path.isName_place workingDirectory name member).notParent
  have onPaper := eq_walk_of_walk startNames (walk_names_of_locate located)
  have same : location = Path.place (Path.join workingDirectory path) := by
    rw [onPaper, Path.place_join, ← normal]
    unfold startOf
    split <;> rfl
  rwa [← same]

end Finding

end FileTree

end ServiceStubs
