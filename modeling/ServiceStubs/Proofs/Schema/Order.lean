import ServiceStubs.Proofs.FileTree.Order
import ServiceStubs.Schema.Library

/-!
# Schema files in a reordered tree

Schema files are looked up by name; no directory is listed for them. Trees that differ in their
order only hold the same files under the same names, so they give the same descriptors, or none of
them does (`compile_of_reordered`).
-/

namespace ServiceStubs.Schema

open FileTree

section Mappings

variable {left right : FileTree} (reordered : Reordered left right) (workingDirectory : String)

include reordered

/-- A part of an include path is taken alike in any order. -/
theorem Mapping.ofPart?_of_reordered :
    Mapping.ofPart? right workingDirectory = Mapping.ofPart? left workingDirectory := by
  funext part
  unfold Mapping.ofPart?
  simp only [reordered.holds_eq]

/-- An include path is taken alike in any order. -/
theorem Mapping.ofInclude?_of_reordered :
    Mapping.ofInclude? right workingDirectory = Mapping.ofInclude? left workingDirectory := by
  funext given
  cases given with
  | wellKnown => rfl
  | directory path =>
    rw [Mapping.ofInclude?, Mapping.ofInclude?, Mapping.ofPart?_of_reordered reordered]

end Mappings

namespace Library

/-- The library with the same mappings in another tree. -/
def inTree (library : Library) (tree : FileTree) : Library :=
  { library with tree }

section Lookups

variable {library : Library} {tree : FileTree} (reordered : Reordered library.tree tree)

include reordered

/-- The same paths exist in a reordered tree. -/
theorem holds_inTree (path : String) :
    (library.inTree tree).tree.holds (library.inTree tree).workingDirectory path =
      library.tree.holds library.workingDirectory path :=
  (reordered.holds_eq library.workingDirectory path).symm

/-- The same paths are files in a reordered tree. -/
theorem isFile_inTree (path : String) :
    (library.inTree tree).tree.isFile (library.inTree tree).workingDirectory path =
      library.tree.isFile library.workingDirectory path :=
  (reordered.isFile_eq library.workingDirectory path).symm

/-- The same file is read in a reordered tree. -/
theorem fileIn?_inTree : (library.inTree tree).fileIn? = library.fileIn? := by
  funext name mapping
  cases mapping with
  | wellKnown => rfl
  | directory nameStart diskStart =>
    unfold fileIn?
    dsimp only [inTree]
    simp only [reordered.find?_eq]

/-- The same file has a name in a reordered tree. -/
theorem file?_inTree (name : String) : (library.inTree tree).file? name = library.file? name := by
  unfold file?
  rw [fileIn?_inTree reordered]
  rfl

/-- The same names have files in a reordered tree. -/
theorem hasFile_inTree (name : String) :
    (library.inTree tree).hasFile name = library.hasFile name := by
  unfold hasFile
  rw [fileIn?_inTree reordered]
  rfl

/-- A path is given the same name by the mappings of a reordered tree. -/
theorem search_inTree (path : String) (earlier mappings : List Mapping) :
    nameOnDisk?.search (library.inTree tree) path earlier mappings =
      nameOnDisk?.search library path earlier mappings := by
  induction mappings generalizing earlier with
  | nil => rfl
  | cons mapping others inductionHypothesis =>
    rw [nameOnDisk?.search, nameOnDisk?.search, inductionHypothesis]
    simp only [holds_inTree reordered]

/-- A path has the same name in a reordered tree. -/
theorem nameOf?_inTree (path : String) :
    (library.inTree tree).nameOf? path = library.nameOf? path := by
  have sameName : (library.inTree tree).nameOnDisk? path = library.nameOnDisk? path :=
    search_inTree reordered _ _ _
  unfold nameOf?
  rw [hasFile_inTree reordered, holds_inTree reordered, isFile_inTree reordered, sameName]

/-- Imports reach as deep in a reordered tree. -/
theorem deepestImport_inTree : (library.inTree tree).deepestImport = library.deepestImport := by
  unfold deepestImport
  dsimp only [inTree]
  rw [reordered.nodes.length_eq]

/-- The files that a file imports are looked up as the file itself is. -/
theorem load_inTree (depth : Nat) :
    (library.inTree tree).load depth = library.load depth := by
  induction depth with
  | zero =>
    funext pending loaded name
    rfl
  | succ depth inductionHypothesis =>
    funext pending loaded name
    rw [load, load, file?_inTree reordered, inductionHypothesis]

end Lookups

end Library

/-- The descriptors of schema files do not depend on the order of the tree. -/
theorem compile_of_reordered {left right : FileTree} (reordered : Reordered left right)
    (workingDirectory : String) (paths importPaths : List String) :
    compile right workingDirectory paths importPaths =
      compile left workingDirectory paths importPaths := by
  unfold compile Library.ofIncludes?
  rw [Mapping.ofInclude?_of_reordered reordered]
  cases (includes workingDirectory paths importPaths).mapM
      (Mapping.ofInclude? left workingDirectory) with
  | none => rfl
  | some mappings =>
    let library : Library := ⟨left, workingDirectory, mappings.flatten⟩
    have sameTree : Reordered library.tree right := reordered
    have sameNames := Library.nameOf?_inTree sameTree
    have sameDepth := Library.deepestImport_inTree sameTree
    have sameLoad := Library.load_inTree sameTree
    dsimp only [Library.inTree, library] at sameNames sameDepth sameLoad
    dsimp only [Option.bind_eq_bind, Option.bind_some, Option.pure_def]
    simp only [sameNames, sameDepth, sameLoad]

end ServiceStubs.Schema
