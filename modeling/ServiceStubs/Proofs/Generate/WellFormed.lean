import ServiceStubs.Proofs.FileTree.Lookup
import ServiceStubs.Proofs.Generate.Action

/-!
# File systems stay file systems

Searching and looking up are understood in trees that are file systems. A run starts in such a tree
and leaves one behind, however it ends: everything it puts into the tree has a name and stands in
a directory, and no directory is ever replaced. So what holds of a run in a file system holds of
each run in a series of them.
-/

namespace ServiceStubs

namespace FileTree

variable {tree : FileTree} {workingDirectory path : String}

/-- The tree without any places is a file system. -/
theorem isWellFormed_empty : ({} : FileTree).IsWellFormed where
  stands := by simp
  named := by simp
  housed := by simp

/-- What is listed after something was put at a place is that, or was listed before at another
place. -/
theorem mem_nodes_put {location : Location} {node : Node} {entry : Location × Node}
    (member : entry ∈ (tree.put location node).nodes) :
    entry = (location, node) ∨ entry ∈ tree.nodes ∧ entry.1 ≠ location := by
  unfold put at member
  split at member
  · obtain ⟨old, listed, shown⟩ := List.mem_map.mp member
    split at shown
    · exact .inl shown.symm
    · rename_i apart
      rw [← shown]
      exact .inr ⟨listed, by simpa using apart⟩
  · rename_i free
    rcases List.mem_append.mp member with listed | new
    · refine .inr ⟨listed, ?_⟩
      rintro rfl
      exact free (List.any_eq_true.mpr ⟨entry, listed, beq_self_eq_true _⟩)
    · exact .inl (List.mem_singleton.mp new)

/-- Something can be put at a new place in a directory, or over a file. -/
theorem IsWellFormed.put (wellFormed : tree.IsWellFormed) {parent : Location} {name : String}
    (isName : Path.IsName name) (housed : tree.node? parent = some .directory)
    (free : tree.node? (parent ++ [name]) ≠ some .directory) (node : Node) :
    (tree.put (parent ++ [name]) node).IsWellFormed := by
  have keeps := keepsDirectories_put free node
  refine ⟨?_, ?_, ?_⟩
  · intro entry member
    rcases mem_nodes_put member with rfl | ⟨listed, apart⟩
    · exact node?_put_self tree (by simp) node
    · rw [node?_put_of_ne tree apart]
      exact wellFormed.stands entry listed
  · intro entry member
    rcases mem_nodes_put member with rfl | ⟨listed, _⟩
    · rw [List.forall_mem_append]
      have outer : tree.node? ([] ++ parent) = some .directory := housed
      exact ⟨wellFormed.isName_of_append outer, by simpa using isName⟩
    · exact wellFormed.named entry listed
  · intro entry member
    rcases mem_nodes_put member with rfl | ⟨listed, _⟩
    · rw [List.dropLast_concat]
      exact keeps parent housed
    · exact keeps _ (wellFormed.housed entry listed)

/-- Something can be put at the place of a path that may be new. -/
theorem IsWellFormed.put_locateNew (wellFormed : tree.IsWellFormed) {location : Location}
    (found : tree.locateNew workingDirectory path = .ok location)
    (free : tree.node? location ≠ some .directory) (node : Node) :
    (tree.put location node).IsWellFormed := by
  obtain ⟨directory, last, slashes, parent, spelled, nonempty, notHere, notParent, _, isDirectory,
    rfl⟩ := locateNew_eq_ok found
  have segment : last ∈ Path.segments path := by
    simp [spelled]
  have noSlash : '/' ∉ last.toList := by
    obtain ⟨part, cut, rfl⟩ := List.mem_map.mp segment
    rw [String.toList_ofList]
    exact Text.not_mem_of_mem_splitAt cut
  exact wellFormed.put ⟨nonempty, notHere, notParent, noSlash⟩ isDirectory free node

/-- Making one directory leaves a file system. -/
theorem IsWellFormed.makeDirectory (wellFormed : tree.IsWellFormed) {made : FileTree}
    (success : tree.makeDirectory workingDirectory path = .ok made) : made.IsWellFormed := by
  unfold FileTree.makeDirectory at success
  cases found : tree.locateNew workingDirectory path with
  | error fault => simp [found] at success
  | ok location =>
    cases stands : tree.node? location with
    | some node => simp [found, stands] at success
    | none =>
      simp only [found, stands, Except.ok.injEq] at success
      rw [← success]
      exact wellFormed.put_locateNew found (by simp [stands]) .directory

/-- Making one directory, unless it is there, leaves a file system. -/
theorem IsWellFormed.ensureDirectory (wellFormed : tree.IsWellFormed)
    (workingDirectory path : String) :
    (leftBehind (tree.ensureDirectory workingDirectory path)).IsWellFormed := by
  unfold FileTree.ensureDirectory
  cases making : tree.makeDirectory workingDirectory path with
  | ok made => exact wellFormed.makeDirectory making
  | error error =>
    dsimp only
    split
    · exact wellFormed
    · exact wellFormed

/-- Making directories leaves a file system, also if it ends half-way. -/
theorem IsWellFormed.makeDirectories (wellFormed : tree.IsWellFormed)
    (workingDirectory path : String) :
    (leftBehind (tree.makeDirectories workingDirectory path)).IsWellFormed := by
  unfold FileTree.makeDirectories
  generalize path.length + 1 = depth
  induction depth generalizing path with
  | zero => exact wellFormed
  | succ depth inductionHypothesis =>
    have inner {made : FileTree} (madeWellFormed : made.IsWellFormed) (name : String) :
        (leftBehind (if name = "." then .ok made
          else made.ensureDirectory workingDirectory path)).IsWellFormed := by
      split
      · exact madeWellFormed
      · exact madeWellFormed.ensureDirectory workingDirectory path
    have outer := inductionHypothesis (parentAndName path).1
    rw [makeDirectoriesUpTo]
    dsimp only
    split
    · cases making : makeDirectoriesUpTo depth tree workingDirectory (parentAndName path).1 with
      | ok made =>
        rw [making] at outer
        exact inner outer _
      | error interruption =>
        rw [making] at outer
        dsimp only
        split
        · exact inner outer _
        · exact outer
    · exact wellFormed.ensureDirectory workingDirectory path

/-- Writing a file leaves a file system. -/
theorem IsWellFormed.write (wellFormed : tree.IsWellFormed) {bytes : List UInt8}
    {written : FileTree} (success : tree.write workingDirectory path bytes = .ok written) :
    written.IsWellFormed := by
  obtain ⟨location, found, free, rfl⟩ := write_eq_ok success
  exact wellFormed.put_locateNew found free (.file bytes)

end FileTree

namespace Action

variable {α β : Type}

/-- A step that leaves a file system behind, however it ends. -/
def KeepsFileSystem (action : Action α) : Prop :=
  ∀ session, session.tree.IsWellFormed → (action.outcome session).2.tree.IsWellFormed

/-- A step that keeps the tree keeps the file system. -/
theorem KeepsTree.keepsFileSystem {action : Action α} (keeps : KeepsTree action) :
    KeepsFileSystem action := by
  intro session wellFormed
  rw [keeps session]
  exact wellFormed

/-- Steps that leave a file system leave one together. -/
theorem KeepsFileSystem.bind {action : Action α} {next : α → Action β}
    (first : KeepsFileSystem action) (rest : ∀ value, KeepsFileSystem (next value)) :
    KeepsFileSystem (action >>= next) := by
  intro session wellFormed
  have between := first session wellFormed
  rw [outcome_bind]
  rcases ended : action.outcome session with ⟨result, final⟩
  rw [ended] at between
  cases result with
  | error failure => exact between
  | ok value => exact rest value final between

/-- A change of the tree keeps the file system if what it leaves behind is one. -/
theorem keepsFileSystem_changeTree {change : FileTree → Except Interruption FileTree}
    (leaves : ∀ tree : FileTree, tree.IsWellFormed →
      (FileTree.leftBehind (change tree)).IsWellFormed) :
    KeepsFileSystem (changeTree change) := by
  intro session wellFormed
  have left := leaves session.tree wellFormed
  rw [outcome_changeTree]
  cases changed : change session.tree with
  | ok tree =>
    rw [changed] at left
    exact left
  | error interruption =>
    rw [changed] at left
    exact left

end Action

namespace Environment

open Action

variable (environment : Environment) (settings : Settings)

/-- Writing a file keeps the file system. -/
theorem keepsFileSystem_write (path : String) (bytes : List UInt8) :
    KeepsFileSystem (environment.write path bytes) := by
  apply keepsFileSystem_changeTree
  intro tree wellFormed
  cases writing : tree.write environment.workingDirectory path bytes with
  | ok written => exact wellFormed.write writing
  | error error => exact wellFormed

/-- Storing a module keeps the file system. -/
theorem keepsFileSystem_store (root source text : String) :
    KeepsFileSystem (environment.store settings root source text) := by
  refine (keepsTree_demand _).keepsFileSystem.bind fun outputDirectory => ?_
  refine (keepsFileSystem_changeTree fun tree wellFormed =>
    wellFormed.makeDirectories _ _).bind fun _ => ?_
  refine (environment.keepsFileSystem_write _ _).bind fun _ => ?_
  refine (keepsTree_encodable _ _).keepsFileSystem.bind fun _ => ?_
  refine (environment.keepsFileSystem_write _ _).bind fun _ => ?_
  exact ((keepsTree_report _).bind fun _ => keepsTree_pure _).keepsFileSystem

/-- Generating a module keeps the file system. -/
theorem keepsFileSystem_generate (paths : List String) (root : String) :
    KeepsFileSystem (environment.generate settings paths root) :=
  (environment.keepsTree_compose settings paths root).keepsFileSystem.bind fun text =>
    environment.keepsFileSystem_store settings root (paths.headD "") text

/-- A run leaves a file system behind if it starts in one, however it ends. -/
theorem keepsFileSystem_run (arguments : Arguments) (root : String) :
    KeepsFileSystem (environment.run arguments root) := by
  unfold run
  split
  · exact (keepsTree_throw _).keepsFileSystem
  · rename_i settings _
    refine (environment.keepsTree_sources settings root).keepsFileSystem.bind fun paths => ?_
    have rest := (keepsTree_report (.sourcesFound paths)).keepsFileSystem.bind fun _ =>
      (environment.keepsFileSystem_generate settings paths root).bind fun written =>
        ((keepsTree_print environment.console (environment.hint
          settings.outputDirectory.display (paths.headD "") root)).bind fun _ =>
            keepsTree_pure written).keepsFileSystem
    split
    · exact (keepsTree_demand _).keepsFileSystem.bind fun _ =>
        (keepsTree_throw _).keepsFileSystem.bind fun _ => rest
    · exact rest

end Environment

end ServiceStubs
