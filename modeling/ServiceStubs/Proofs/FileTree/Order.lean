import Mathlib.Data.List.Dedup
import Mathlib.Data.List.Perm.Basic
import ServiceStubs.Proofs.FileTree.Lookup

/-!
# The order of a tree

The entries of a tree stand in some order, and its directories list their names in that order. A
tree can be reordered so that every directory lists its names in any order one likes. Looking
something up does not see the order, a listing is only permuted by it, and trees that differ in
their order are changed alike.
-/

namespace ServiceStubs.FileTree

/-- Trees with the same entries in some order, which hold the same. -/
structure Reordered (left right : FileTree) : Prop where
  nodes : left.nodes.Perm right.nodes
  node?_eq : ∀ location, left.node? location = right.node? location

section Standing

variable {left right : FileTree}

/-- Something stands at the place of every entry. -/
theorem node?_ne_none_of_mem {tree : FileTree} {location : Location} {node : Node}
    (member : (location, node) ∈ tree.nodes) : tree.node? location ≠ none := by
  unfold node?
  split
  · simp
  · have found : (tree.nodes.find? fun entry => entry.1 == location).isSome = true :=
      List.find?_isSome.mpr ⟨_, member, by simp⟩
    simpa using Option.isSome_iff_ne_none.mp found

/-- What stands in a tree is told by its entries, in whatever order they stand. -/
theorem IsWellFormed.node?_eq_of_mem_iff (wellFormed : left.IsWellFormed)
    (same : ∀ location node, location ≠ [] →
      ((location, node) ∈ right.nodes ↔ (location, node) ∈ left.nodes)) (location : Location) :
    left.node? location = right.node? location := by
  by_cases root : location = []
  · rw [root, node?_root, node?_root]
  · cases found : right.node? location with
    | some node =>
      exact wellFormed.stands _ ((same location node root).mp (mem_nodes_of_node? root found))
    | none =>
      cases stands : left.node? location with
      | none => rfl
      | some node =>
        have member := (same location node root).mpr (mem_nodes_of_node? root stands)
        exact absurd found (node?_ne_none_of_mem member)

/-- The same places in another order hold the same. -/
theorem IsWellFormed.reordered (wellFormed : left.IsWellFormed)
    (nodes : left.nodes.Perm right.nodes) : Reordered left right where
  nodes := nodes
  node?_eq := wellFormed.node?_eq_of_mem_iff fun _ _ _ => nodes.mem_iff.symm

/-- Walking looks only at what stands at places. -/
theorem walk_eq_of_node?_eq (same : ∀ location, left.node? location = right.node? location)
    (location : Location) (segments : List String) :
    left.walk location segments = right.walk location segments := by
  induction segments generalizing location with
  | nil => rfl
  | cons segment others inductionHypothesis =>
    rw [walk, walk, same]
    simp only [inductionHypothesis]

/-- Where a path leads is told by what stands in a tree. -/
theorem locate_eq_of_node?_eq (same : ∀ location, left.node? location = right.node? location)
    (workingDirectory path : String) :
    left.locate workingDirectory path = right.locate workingDirectory path := by
  rw [locate, locate, walk_eq_of_node?_eq same]

end Standing

section Lookups

variable {left right : FileTree} (reordered : Reordered left right)

include reordered

/-- Whether a tree is well-formed does not depend on its order. -/
theorem Reordered.isWellFormed (wellFormed : left.IsWellFormed) : right.IsWellFormed where
  stands := fun entry member => by
    rw [← reordered.node?_eq]
    exact wellFormed.stands entry (reordered.nodes.mem_iff.mpr member)
  named := fun entry member => wellFormed.named entry (reordered.nodes.mem_iff.mpr member)
  housed := fun entry member => by
    rw [← reordered.node?_eq]
    exact wellFormed.housed entry (reordered.nodes.mem_iff.mpr member)

/-- A way leads to the same place in any order. -/
theorem Reordered.walk_eq (location : Location) (segments : List String) :
    left.walk location segments = right.walk location segments :=
  walk_eq_of_node?_eq reordered.node?_eq location segments

/-- A path leads to the same place in any order. -/
theorem Reordered.locate_eq (workingDirectory path : String) :
    left.locate workingDirectory path = right.locate workingDirectory path :=
  locate_eq_of_node?_eq reordered.node?_eq workingDirectory path

/-- The same stands at a path in any order. -/
theorem Reordered.find?_eq (workingDirectory path : String) :
    left.find? workingDirectory path = right.find? workingDirectory path := by
  unfold find?
  rw [reordered.locate_eq]
  simp only [reordered.node?_eq]

/-- The same paths exist in any order. -/
theorem Reordered.holds_eq (workingDirectory path : String) :
    left.holds workingDirectory path = right.holds workingDirectory path := by
  rw [holds, holds, reordered.find?_eq]

/-- The same paths are files in any order. -/
theorem Reordered.isFile_eq (workingDirectory path : String) :
    left.isFile workingDirectory path = right.isFile workingDirectory path := by
  rw [isFile, isFile, reordered.find?_eq]

/-- The same paths are directories in any order. -/
theorem Reordered.isDirectory_eq (workingDirectory path : String) :
    left.isDirectory workingDirectory path = right.isDirectory workingDirectory path := by
  rw [isDirectory, isDirectory, reordered.find?_eq]

/-- The same bytes are read, or the same error is met, in any order. -/
theorem Reordered.read_eq (workingDirectory path : String) :
    left.read workingDirectory path = right.read workingDirectory path := by
  unfold read
  rw [reordered.locate_eq]
  simp only [reordered.node?_eq]

/-- The place for something new is the same in any order. -/
theorem Reordered.locateNew_eq (workingDirectory path : String) :
    left.locateNew workingDirectory path = right.locateNew workingDirectory path := by
  unfold locateNew
  simp only [reordered.walk_eq]

/-- What lies below a directory is listed in another order. -/
theorem Reordered.contents_perm (workingDirectory path : String) :
    (left.contents workingDirectory path).Perm (right.contents workingDirectory path) := by
  unfold contents
  rw [reordered.locate_eq]
  split
  · exact .refl []
  · rw [reordered.node?_eq]
    split
    · exact reordered.nodes.filterMap _
    · exact .refl []

/-- A directory lists the same names in any order. -/
theorem Reordered.list_perm (workingDirectory path : String) :
    (left.list workingDirectory path).Perm (right.list workingDirectory path) :=
  (reordered.contents_perm workingDirectory path).filterMap _

end Lookups

section Arranging

/-- The name and the node of an entry, if it lies in the directory at a place. -/
def entryIn? (location : Location) (entry : Location × Node) : Option (String × Node) :=
  match entry.1.getLast? with
  | some name => if entry.1.dropLast = location then some (name, entry.2) else none
  | none => none

/-- The entries of the directory at a place, in the order in which it lists them. -/
def entriesAt (tree : FileTree) (location : Location) : List (String × Node) :=
  tree.nodes.filterMap (entryIn? location)

/-- An entry belongs to the directory that all but its last name lead to. -/
@[simp] theorem entryIn?_concat (location place : Location) (name : String) (node : Node) :
    entryIn? location (place ++ [name], node) =
      if place = location then some (name, node) else none := by
  simp [entryIn?]

variable {tree : FileTree} {location : Location} {name : String} {node : Node}

/-- The entry of a directory stands one name below it. -/
theorem entryIn?_eq_some_iff {entry : Location × Node} :
    entryIn? location entry = some (name, node) ↔ entry = (location ++ [name], node) := by
  obtain ⟨place, stands⟩ := entry
  rcases List.eq_nil_or_concat place with rfl | ⟨front, last, rfl⟩
  · simp [entryIn?]
  · rw [List.concat_eq_append, entryIn?_concat]
    constructor
    · intro shown
      split at shown
      · rename_i here
        cases shown
        rw [here]
      · cases shown
    · intro same
      obtain ⟨places, rfl⟩ := Prod.mk.inj same
      obtain ⟨rfl, lasts⟩ := List.append_inj' places rfl
      rw [if_pos rfl, List.singleton_inj.mp lasts]

/-- The entries of a directory are what the tree holds one step below it. -/
theorem mem_entriesAt_iff :
    (name, node) ∈ tree.entriesAt location ↔ (location ++ [name], node) ∈ tree.nodes := by
  simp [entriesAt, List.mem_filterMap, entryIn?_eq_some_iff]

/-- Listing a directory gives its entries. -/
theorem list_of_locate {workingDirectory path : String}
    (located : tree.locate workingDirectory path = .ok location)
    (isDirectory : tree.node? location = some .directory) :
    tree.list workingDirectory path = tree.entriesAt location := by
  simp only [list, contents, located, isDirectory, below, List.filterMap_filterMap, entriesAt]
  congr 1
  funext ⟨place, stands⟩
  refine Option.ext fun ⟨name, node⟩ => ?_
  rw [Option.bind_eq_some_iff, entryIn?_eq_some_iff]
  constructor
  · rintro ⟨⟨way, found⟩, inside, single⟩
    split at inside
    · rename_i isInside
      rw [Bool.and_eq_true, List.isPrefixOf_iff_prefix] at isInside
      obtain ⟨⟨rest, rfl⟩, _⟩ := isInside
      rw [List.drop_left] at inside
      cases inside
      split at single
      · rename_i alone
        obtain rfl : way = [_] := alone
        cases single
        rfl
      · cases single
    · cases inside
  · rintro ⟨rfl, rfl⟩
    exact ⟨([name], stands), by simp, rfl⟩

/-- An assignment of listing orders: each directory has its own entries, in some order. -/
def IsArrangement (tree : FileTree) (order : Location → List (String × Node)) : Prop :=
  ∀ location, (order location).Perm (tree.entriesAt location)

/-- The places of all directories, each once. -/
def directories (tree : FileTree) : List Location :=
  ([] :: (tree.nodes.filter fun entry => entry.2 = .directory).map Prod.fst).dedup

/-- The tree whose directories list their entries in the given order. -/
def arranged (tree : FileTree) (order : Location → List (String × Node)) : FileTree :=
  ⟨tree.directories.flatMap fun location =>
    (order location).map fun entry => (location ++ [entry.1], entry.2)⟩

/-- The directories are the places where a directory stands. -/
theorem IsWellFormed.mem_directories_iff (wellFormed : tree.IsWellFormed) :
    location ∈ tree.directories ↔ tree.node? location = some .directory := by
  unfold directories
  rw [List.mem_dedup, List.mem_cons]
  constructor
  · rintro (root | member)
    · rw [root, node?_root]
    · obtain ⟨⟨place, stands⟩, listed, rfl⟩ := List.mem_map.mp member
      obtain ⟨entry, isDirectory⟩ := List.mem_filter.mp listed
      rw [wellFormed.stands _ entry, of_decide_eq_true isDirectory]
  · intro stands
    by_cases root : location = []
    · exact .inl root
    · refine .inr (List.mem_map.mpr ⟨(location, .directory), ?_, rfl⟩)
      exact List.mem_filter.mpr ⟨mem_nodes_of_node? root stands, by simp⟩

variable {order other : Location → List (String × Node)}

/-- An arranged tree has the entries of the tree. -/
theorem IsWellFormed.mem_arranged_iff (wellFormed : tree.IsWellFormed)
    (arrangement : tree.IsArrangement order) (notRoot : location ≠ []) :
    (location, node) ∈ (tree.arranged order).nodes ↔ (location, node) ∈ tree.nodes := by
  unfold arranged
  simp only [List.mem_flatMap, List.mem_map]
  constructor
  · rintro ⟨place, _, ⟨name, stands⟩, listed, same⟩
    rw [← same]
    exact mem_entriesAt_iff.mp ((arrangement place).mem_iff.mp listed)
  · intro member
    obtain ⟨place, name, rfl⟩ := (List.eq_nil_or_concat' location).resolve_left notRoot
    have housed := wellFormed.housed _ member
    rw [List.dropLast_concat] at housed
    exact ⟨place, wellFormed.mem_directories_iff.mpr housed, (name, node),
      (arrangement place).mem_iff.mpr (mem_entriesAt_iff.mpr member), rfl⟩

/-- An arranged tree is the same file system. -/
theorem IsWellFormed.node?_arranged (wellFormed : tree.IsWellFormed)
    (arrangement : tree.IsArrangement order) (location : Location) :
    (tree.arranged order).node? location = tree.node? location :=
  (wellFormed.node?_eq_of_mem_iff
    (fun _ _ notRoot => wellFormed.mem_arranged_iff arrangement notRoot) location).symm

/-- The root is never listed. -/
theorem ne_root_of_mem_arranged {entry : Location × Node}
    (member : entry ∈ (tree.arranged order).nodes) : entry.1 ≠ [] := by
  obtain ⟨place, _, listed⟩ := List.mem_flatMap.mp member
  obtain ⟨_, _, rfl⟩ := List.mem_map.mp listed
  simp

/-- Listing every directory in an order of its own gives a well-formed tree. -/
theorem IsWellFormed.arranged (wellFormed : tree.IsWellFormed)
    (arrangement : tree.IsArrangement order) : (tree.arranged order).IsWellFormed := by
  have original {entry : Location × Node} (member : entry ∈ (tree.arranged order).nodes) :
      entry ∈ tree.nodes :=
    (wellFormed.mem_arranged_iff arrangement (ne_root_of_mem_arranged member)).mp member
  refine ⟨fun entry member => ?_, fun entry member => wellFormed.named entry (original member),
    fun entry member => ?_⟩
  · rw [wellFormed.node?_arranged arrangement]
    exact wellFormed.stands entry (original member)
  · rw [wellFormed.node?_arranged arrangement]
    exact wellFormed.housed entry (original member)

/-- Only directories have entries. -/
theorem IsWellFormed.entriesAt_of_not_mem (wellFormed : tree.IsWellFormed)
    (notDirectory : location ∉ tree.directories) : tree.entriesAt location = [] := by
  rw [List.eq_nil_iff_forall_not_mem]
  rintro ⟨name, node⟩ listed
  have housed := wellFormed.housed _ (mem_entriesAt_iff.mp listed)
  rw [List.dropLast_concat] at housed
  exact notDirectory (wellFormed.mem_directories_iff.mpr housed)

/-- Each directory of an arranged tree lists its entries in the order that was asked for. -/
theorem IsWellFormed.entriesAt_arranged (wellFormed : tree.IsWellFormed)
    (arrangement : tree.IsArrangement order) (location : Location) :
    (tree.arranged order).entriesAt location = order location := by
  have each (place : Location) :
      ((order place).map fun entry => (place ++ [entry.1], entry.2)).filterMap
        (entryIn? location) = if place = location then order place else [] := by
    rw [List.filterMap_map]
    split <;> simp [*]
  have gathered : (tree.arranged order).entriesAt location =
      tree.directories.flatMap fun place => if place = location then order place else [] := by
    simp only [entriesAt, FileTree.arranged, List.filterMap_flatMap, each]
  have silent {places : List Location} (absent : location ∉ places) :
      places.flatMap (fun place => if place = location then order place else []) = [] := by
    rw [List.flatMap_eq_nil_iff]
    intro place member
    rw [if_neg]
    rintro rfl
    exact absent member
  rw [gathered]
  by_cases isDirectory : location ∈ tree.directories
  · -- The place stands among the directories once, so that its entries are listed once.
    obtain ⟨before, after, cut⟩ := List.append_of_mem isDirectory
    have once : (before ++ location :: after).Nodup := cut ▸ List.nodup_dedup _
    rw [List.nodup_middle, List.nodup_cons, List.mem_append, not_or] at once
    rw [cut, List.flatMap_append, List.flatMap_cons, silent once.1.1, silent once.1.2, if_pos rfl,
      List.nil_append, List.append_nil]
  · have empty := arrangement location
    rw [wellFormed.entriesAt_of_not_mem isDirectory, List.perm_nil] at empty
    rw [empty, silent isDirectory]

/-- Listing a directory of an arranged tree gives its entries in the order that was asked for. -/
theorem IsWellFormed.list_arranged (wellFormed : tree.IsWellFormed)
    (arrangement : tree.IsArrangement order) {workingDirectory path : String}
    (located : tree.locate workingDirectory path = .ok location)
    (isDirectory : tree.node? location = some .directory) :
    (tree.arranged order).list workingDirectory path = order location := by
  have same := wellFormed.node?_arranged arrangement
  rw [← locate_eq_of_node?_eq same] at located
  rw [← same] at isDirectory
  rw [list_of_locate located isDirectory, wellFormed.entriesAt_arranged arrangement]

/-- Any two arrangements of a tree differ in their order only. -/
theorem IsWellFormed.reordered_arranged (wellFormed : tree.IsWellFormed)
    (arrangement : tree.IsArrangement order) (otherArrangement : tree.IsArrangement other) :
    Reordered (tree.arranged order) (tree.arranged other) := by
  refine (wellFormed.arranged arrangement).reordered (List.Perm.flatMap_left _ ?_)
  intro location _
  exact ((arrangement location).trans (otherArrangement location).symm).map _

end Arranging

section Changes

variable {left right : FileTree}

/-- Putting something at a place does not need to know the order. -/
theorem Reordered.put (reordered : Reordered left right) {location : Location}
    (notRoot : location ≠ []) (node : Node) :
    Reordered (left.put location node) (right.put location node) where
  nodes := by
    have sameTest : (left.nodes.any fun entry => entry.1 == location) =
        right.nodes.any fun entry => entry.1 == location := by
      rw [Bool.eq_iff_iff, List.any_eq_true, List.any_eq_true]
      exact exists_congr fun entry => and_congr_left fun _ => reordered.nodes.mem_iff
    unfold FileTree.put
    rw [sameTest]
    split
    · exact reordered.nodes.map _
    · exact reordered.nodes.append_right _
  node?_eq := by
    intro other
    by_cases here : other = location
    · rw [here, node?_put_self left notRoot, node?_put_self right notRoot]
    · rw [node?_put_of_ne left here, node?_put_of_ne right here, reordered.node?_eq]

/-- Changes of two trees that end alike: both complete, or both interrupted by one error, with
trees that differ in their order only. -/
inductive ReorderedChange : Except Interruption FileTree → Except Interruption FileTree → Prop where
  | completed {left right : FileTree} (reordered : Reordered left right) :
      ReorderedChange (.ok left) (.ok right)
  | interrupted {left right : FileTree} (reordered : Reordered left right) (error : PathError) :
      ReorderedChange (.error ⟨left, error⟩) (.error ⟨right, error⟩)

variable (reordered : Reordered left right) (workingDirectory path : String)

include reordered

/-- A directory is made in both orders, or refused with the same error. -/
theorem Reordered.makeDirectory_cases :
    (∃ error, left.makeDirectory workingDirectory path = .error error ∧
      right.makeDirectory workingDirectory path = .error error) ∨
    ∃ madeLeft madeRight, left.makeDirectory workingDirectory path = .ok madeLeft ∧
      right.makeDirectory workingDirectory path = .ok madeRight ∧
      Reordered madeLeft madeRight := by
  unfold makeDirectory
  rw [← reordered.locateNew_eq]
  cases found : left.locateNew workingDirectory path with
  | error fault => exact .inl ⟨_, rfl, rfl⟩
  | ok location =>
    simp only [← reordered.node?_eq]
    cases left.node? location with
    | some node => exact .inl ⟨_, rfl, rfl⟩
    | none => exact .inr ⟨_, _, rfl, rfl, reordered.put (locateNew_ne_root found) _⟩

/-- Ensuring a directory does the same in any order. -/
theorem Reordered.ensureDirectory :
    ReorderedChange (left.ensureDirectory workingDirectory path)
      (right.ensureDirectory workingDirectory path) := by
  unfold FileTree.ensureDirectory
  rcases reordered.makeDirectory_cases workingDirectory path with
    ⟨error, failedLeft, failedRight⟩ | ⟨madeLeft, madeRight, doneLeft, doneRight, made⟩
  · rw [failedLeft, failedRight]
    dsimp only
    rw [← reordered.isDirectory_eq]
    split
    · exact .completed reordered
    · exact .interrupted reordered error
  · rw [doneLeft, doneRight]
    exact .completed made

/-- Making a directory with its parents does the same in any order. -/
theorem Reordered.makeDirectoriesUpTo (depth : Nat) :
    ReorderedChange (makeDirectoriesUpTo depth left workingDirectory path)
      (makeDirectoriesUpTo depth right workingDirectory path) := by
  induction depth generalizing path with
  | zero => exact .interrupted reordered _
  | succ depth inductionHypothesis =>
    have inner {madeLeft madeRight : FileTree} (made : Reordered madeLeft madeRight) :
        ReorderedChange
          (if (parentAndName path).2 = "." then .ok madeLeft
            else madeLeft.ensureDirectory workingDirectory path)
          (if (parentAndName path).2 = "." then .ok madeRight
            else madeRight.ensureDirectory workingDirectory path) := by
      split
      · exact .completed made
      · exact made.ensureDirectory workingDirectory path
    rw [FileTree.makeDirectoriesUpTo, FileTree.makeDirectoriesUpTo]
    dsimp only
    rw [← reordered.holds_eq]
    split
    · have outer := inductionHypothesis (parentAndName path).1
      generalize FileTree.makeDirectoriesUpTo depth left workingDirectory
        (parentAndName path).1 = outerLeft at outer ⊢
      generalize FileTree.makeDirectoriesUpTo depth right workingDirectory
        (parentAndName path).1 = outerRight at outer ⊢
      cases outer with
      | completed made => exact inner made
      | interrupted made error =>
        dsimp only
        split
        · exact inner made
        · exact .interrupted made error
    · exact reordered.ensureDirectory workingDirectory path

/-- Writing does the same in any order. -/
theorem Reordered.write (bytes : List UInt8) :
    ReorderedChange
      ((left.write workingDirectory path bytes).mapError (Interruption.mk left))
      ((right.write workingDirectory path bytes).mapError (Interruption.mk right)) := by
  unfold FileTree.write
  rw [← reordered.locateNew_eq]
  cases found : left.locateNew workingDirectory path with
  | error fault => cases fault <;> exact .interrupted reordered _
  | ok location =>
    simp only [← reordered.node?_eq]
    have put := reordered.put (locateNew_ne_root found) (.file bytes)
    rcases left.node? location with _ | ⟨old⟩ | _
    · exact .completed put
    · exact .completed put
    · exact .interrupted reordered _

end Changes

end ServiceStubs.FileTree
