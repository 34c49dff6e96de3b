import ServiceStubs.FileTree
import ServiceStubs.Proofs.Path.Directory

/-!
# How trees grow

Making directories only adds to a tree: whatever stood somewhere still stands there, and each new
directory is named by a beginning of the path that was asked for. This holds as well for a change
that ends half-way. Writing a file changes the one place that its path leads to. Neither depends
on how the tree was built, so trees with strange places are not excluded.
-/

namespace ServiceStubs

namespace FileTree

section Looking

/-- The root is a directory. -/
@[simp] theorem node?_root (tree : FileTree) : tree.node? [] = some .directory :=
  rfl

/-- What is put at a place stands there. -/
theorem node?_put_self (tree : FileTree) {location : Location} (notRoot : location ≠ [])
    (node : Node) : (tree.put location node).node? location = some node := by
  unfold put node?
  rw [if_neg notRoot]
  split
  · -- Something stands there already: its entry is replaced.
    rename_i taken
    have found : tree.nodes.find? ((fun entry => entry.1 == location) ∘ fun entry =>
        if entry.1 == location then (location, node) else entry) =
        tree.nodes.find? fun entry => entry.1 == location := by
      congr 1
      funext entry
      by_cases here : entry.1 = location <;> simp [here]
    obtain ⟨entry, first⟩ := Option.isSome_iff_exists.mp
      (List.find?_isSome.trans List.any_eq_true.symm |>.mpr taken)
    have here : entry.1 = location := by simpa using List.find?_some first
    rw [List.find?_map, found, first]
    simp [here]
  · rename_i free
    have absent : tree.nodes.find? (fun entry => entry.1 == location) = none := by
      rw [List.find?_eq_none]
      intro entry member here
      exact free (List.any_eq_true.mpr ⟨entry, member, here⟩)
    simp [List.find?_append, absent]

/-- What is put at a place stands at no other one. -/
theorem node?_put_of_ne (tree : FileTree) {location other : Location} (apart : other ≠ location)
    (node : Node) : (tree.put location node).node? other = tree.node? other := by
  unfold put node?
  split
  · rfl
  · split
    · have found : tree.nodes.find? ((fun entry => entry.1 == other) ∘ fun entry =>
          if entry.1 == location then (location, node) else entry) =
          tree.nodes.find? fun entry => entry.1 == other := by
        congr 1
        funext entry
        by_cases here : entry.1 = location <;> simp [here]
      rw [List.find?_map, found]
      cases first : tree.nodes.find? fun entry => entry.1 == other with
      | none => rfl
      | some entry =>
        have here : entry.1 = other := by simpa using List.find?_some first
        simp [here, apart]
    · simp [List.find?_append, Ne.symm apart]

/-- Only what is put last at a place counts. -/
theorem put_put (tree : FileTree) (location : Location) (first second : Node) :
    (tree.put location first).put location second = tree.put location second := by
  unfold put
  by_cases taken : (tree.nodes.any fun entry => entry.1 == location) = true
  · have stillTaken : ((tree.nodes.map fun entry =>
        if entry.1 == location then (location, first) else entry).any
          fun entry => entry.1 == location) = true := by
      rw [List.any_eq_true] at taken ⊢
      obtain ⟨entry, member, here⟩ := taken
      exact ⟨_, List.mem_map_of_mem member, by simp [here]⟩
    rw [if_pos taken, if_pos taken, if_pos stillTaken, List.map_map]
    congr 2
    funext entry
    by_cases here : entry.1 = location <;> simp [here]
  · have untouched : ∀ entry ∈ tree.nodes, (entry.1 == location) = false := by
      rw [List.any_eq_true] at taken
      intro entry member
      exact Bool.eq_false_iff.mpr fun here => taken ⟨entry, member, here⟩
    have kept : (tree.nodes.map fun entry =>
        if entry.1 == location then (location, second) else entry) = tree.nodes := by
      rw [List.map_congr_left fun entry member => if_neg (by simp [untouched entry member]),
        List.map_id']
    rw [if_neg taken, if_neg taken, if_pos (by simp), List.map_append, kept]
    simp

/-- The place that one segment leads to from a directory. -/
def stepTo (location : Location) (segment : String) : Location :=
  if segment = "" ∨ segment = "." then location
  else if segment = ".." then location.dropLast
  else location ++ [segment]

/-- From a directory, one segment leads to one place. -/
theorem walk_cons_of_directory {tree : FileTree} {location : Location}
    (isDirectory : tree.node? location = some .directory) (segment : String)
    (others : List String) :
    tree.walk location (segment :: others) = tree.walk (stepTo location segment) others := by
  rw [walk, isDirectory]
  dsimp only
  unfold stepTo
  split
  · rfl
  · split <;> rfl

/-- No segment leads on from anything but a directory. -/
theorem directory_of_walk_cons {tree : FileTree} {location target : Location} {segment : String}
    {others : List String} (walked : tree.walk location (segment :: others) = .ok target) :
    tree.node? location = some .directory := by
  rw [walk] at walked
  split at walked
  · cases walked
  · cases walked
  · assumption

/-- Walking may be interrupted anywhere. -/
theorem walk_append (tree : FileTree) (location : Location) (first second : List String) :
    tree.walk location (first ++ second) =
      (tree.walk location first).bind fun between => tree.walk between second := by
  induction first generalizing location with
  | nil => rfl
  | cons segment others inductionHypothesis =>
    rw [List.cons_append, walk, walk]
    split
    · rfl
    · rfl
    · split
      · exact inductionHypothesis _
      · split
        · exact inductionHypothesis _
        · exact inductionHypothesis _

/-- A tree that has all directories of another one. -/
def KeepsDirectories (before after : FileTree) : Prop :=
  ∀ location, before.node? location = some .directory → after.node? location = some .directory

variable {before after : FileTree}

/-- A way through directories is still there when the directories are. -/
theorem walk_of_keepsDirectories (keeps : KeepsDirectories before after) {location : Location}
    {segments : List String} {target : Location}
    (found : before.walk location segments = .ok target) :
    after.walk location segments = .ok target := by
  induction segments generalizing location with
  | nil => exact found
  | cons segment others inductionHypothesis =>
    have isDirectory := directory_of_walk_cons found
    rw [walk_cons_of_directory isDirectory] at found
    rw [walk_cons_of_directory (keeps location isDirectory)]
    exact inductionHypothesis found

/-- A path leads to the same place as long as no directory on its way is lost. -/
theorem locate_of_keepsDirectories (keeps : KeepsDirectories before after)
    {workingDirectory path : String} {location : Location}
    (found : before.locate workingDirectory path = .ok location) :
    after.locate workingDirectory path = .ok location := by
  unfold locate at found ⊢
  split at found
  · cases found
  · rw [if_neg ‹_›]
    exact walk_of_keepsDirectories keeps found

/-- Empty segments stay in a directory. -/
theorem walk_of_empty {tree : FileTree} {location : Location}
    (isDirectory : tree.node? location = some .directory) {segments : List String}
    (empty : ∀ segment ∈ segments, segment = "") :
    tree.walk location segments = .ok location := by
  induction segments with
  | nil => rfl
  | cons segment others inductionHypothesis =>
    rw [List.forall_mem_cons] at empty
    rw [walk, isDirectory, if_pos (.inl empty.1)]
    exact inductionHypothesis empty.2

/-- Slashes alone lead to the root. -/
theorem locate_of_isOnlySlashes (tree : FileTree) {workingDirectory path : String}
    (nonempty : path ≠ "") (slashes : Path.isOnlySlashes path = true) :
    tree.locate workingDirectory path = .ok [] := by
  have emptySegments : ∀ segment ∈ Path.segments path, segment = "" := by
    intro segment member
    obtain ⟨part, cut, rfl⟩ := List.mem_map.mp member
    have noSlash := Text.not_mem_of_mem_splitAt cut
    cases part with
    | nil => rfl
    | cons character others =>
      have slash : character = '/' := by
        have inPath := Text.mem_of_mem_splitAt cut (List.mem_cons_self ..)
        simpa using List.all_eq_true.mp slashes character inPath
      simp [slash] at noSlash
  have rooted : Path.isAbsolute path = true := by
    cases spelled : path.toList with
    | nil => exact absurd (String.toList_eq_nil_iff.mp spelled) nonempty
    | cons character others =>
      have slash : character = '/' := by
        simpa using List.all_eq_true.mp slashes character (by simp [spelled])
      simp [Path.isAbsolute, spelled, slash]
  rw [locate, if_neg nonempty, startOf, if_pos rooted,
    walk_of_empty tree.node?_root emptySegments]

/-- Slashes alone lead to the root, which always exists. -/
theorem holds_of_isOnlySlashes (tree : FileTree) {workingDirectory path : String}
    (nonempty : path ≠ "") (slashes : Path.isOnlySlashes path = true) :
    tree.holds workingDirectory path = true := by
  rw [holds, find?, locate_of_isOnlySlashes tree nonempty slashes]
  rfl

end Looking

section Growing

variable {workingDirectory path : String} {tree before middle after : FileTree}

/-- What making directories for a path does to a tree: all that stood somewhere still stands
there, and what is new are directories that beginnings of the path name. -/
structure Grows (workingDirectory path : String) (before after : FileTree) : Prop where
  kept : ∀ location node, before.node? location = some node → after.node? location = some node
  new : ∀ location, before.node? location = none → after.node? location = none ∨
    after.node? location = some .directory ∧
      ∃ start, Path.IsBeginning start path ∧ after.locate workingDirectory start = .ok location

/-- A tree that grows loses no directory. -/
theorem Grows.keepsDirectories (grows : Grows workingDirectory path before after) :
    KeepsDirectories before after :=
  fun location isDirectory => grows.kept location .directory isDirectory

/-- A tree that stays as it is has grown by nothing. -/
theorem Grows.refl (workingDirectory path : String) (tree : FileTree) :
    Grows workingDirectory path tree tree where
  kept := fun _ _ stands => stands
  new := fun _ absent => .inl absent

/-- Growth for a beginning of a path, then for the path. -/
theorem Grows.trans {start : String} (isBeginning : Path.IsBeginning start path)
    (first : Grows workingDirectory start before middle)
    (second : Grows workingDirectory path middle after) :
    Grows workingDirectory path before after where
  kept := fun location node stands => second.kept location node (first.kept location node stands)
  new := by
    intro location absent
    rcases first.new location absent with stillAbsent | ⟨isDirectory, outer, begins, named⟩
    · exact second.new location stillAbsent
    · exact .inr ⟨second.kept location .directory isDirectory, outer, begins.trans isBeginning,
        locate_of_keepsDirectories second.keepsDirectories named⟩

/-- The tree after a change, whether it was completed or interrupted. -/
def leftBehind : Except Interruption FileTree → FileTree
  | .ok changed => changed
  | .error interruption => interruption.tree

/-- A place that may be new: its directory is there, and its name is a name. -/
theorem locateNew_eq_ok {location : Location}
    (found : tree.locateNew workingDirectory path = .ok location) :
    ∃ directory last slashes parent,
      Path.segments path = directory ++ last :: List.replicate slashes "" ∧
      last ≠ "" ∧ last ≠ "." ∧ last ≠ ".." ∧
      tree.walk (startOf workingDirectory path) directory = .ok parent ∧
      tree.node? parent = some .directory ∧ location = parent ++ [last] := by
  unfold locateNew lastSegment at found
  cases trimmed : (Path.segments path).reverse.dropWhile (· == "") with
  | nil => simp [trimmed] at found
  | cons last reversed =>
    simp only [trimmed] at found
    let trailing := (Path.segments path).reverse.takeWhile (· == "")
    have allEmpty : ∀ segment ∈ trailing, segment = "" := by
      simpa using List.all_eq_true.mp
        (List.all_takeWhile (p := (· == "")) (l := (Path.segments path).reverse))
    have spelled : Path.segments path =
        reversed.reverse ++ last :: List.replicate trailing.length "" := by
      calc Path.segments path
        _ = (trailing ++ last :: reversed).reverse := by
          rw [← trimmed, List.takeWhile_append_dropWhile, List.reverse_reverse]
        _ = _ := by
          rw [List.eq_replicate_of_mem allEmpty]
          simp
    have nonempty : last ≠ "" := by
      have stopped := List.head?_dropWhile_not (· == "") (Path.segments path).reverse
      simpa [trimmed] using stopped
    rw [walk_append] at found
    cases walked : tree.walk (startOf workingDirectory path) reversed.reverse with
    | error fault => simp [walked, Except.bind] at found
    | ok parent =>
      simp only [walked, Except.bind, walk] at found
      cases stands : tree.node? parent with
      | none => simp [stands] at found
      | some node =>
        cases node with
        | file bytes => simp [stands] at found
        | directory =>
          simp only [stands, true_or, if_true] at found
          split at found
          · cases found
          · rename_i isName
            rw [not_or] at isName
            exact ⟨reversed.reverse, last, trailing.length, parent, spelled, nonempty, isName.1,
              isName.2, walked, stands, by simpa using found.symm⟩

/-- Nothing new can be put at the root. -/
theorem locateNew_ne_root {location : Location}
    (found : tree.locateNew workingDirectory path = .ok location) : location ≠ [] := by
  obtain ⟨_, last, _, parent, _, _, _, _, _, _, rfl⟩ := locateNew_eq_ok found
  simp

/-- A new place is found by its path afterwards, as long as slashes at the end of the path are
followed by a directory only. -/
theorem locate_of_locateNew (keeps : KeepsDirectories before after) {location : Location}
    (found : before.locateNew workingDirectory path = .ok location)
    (ends : (Path.segments path).getLast? = some "" → after.node? location = some .directory) :
    after.locate workingDirectory path = .ok location := by
  obtain ⟨directory, last, slashes, parent, spelled, nonempty, notHere, notParent, walked,
    isDirectory, rfl⟩ := locateNew_eq_ok found
  have pathNonempty : path ≠ "" := by
    rintro rfl
    have segments : Path.segments "" = [""] := by decide
    rw [segments] at spelled
    have member : last ∈ [""] := by simp [spelled]
    exact nonempty (List.mem_singleton.mp member)
  have reached : after.walk parent [last] = .ok (parent ++ [last]) := by
    simp [walk, keeps parent isDirectory, nonempty, notHere, notParent]
  have stays : after.walk (parent ++ [last]) (List.replicate slashes "") =
      .ok (parent ++ [last]) := by
    cases slashes with
    | zero => rfl
    | succ slashes =>
      have stands := ends (by
        rw [spelled, List.replicate_succ', ← List.cons_append, ← List.append_assoc]
        exact List.getLast?_concat)
      exact walk_of_empty stands fun _ => List.eq_of_mem_replicate
  rw [locate, if_neg pathNonempty, spelled, ← List.singleton_append, walk_append,
    walk_of_keepsDirectories keeps walked, Except.bind, walk_append, reached]
  exact stays

/-- A place that may be new may still be new when no directory was removed. -/
theorem locateNew_of_keepsDirectories (keeps : KeepsDirectories before after) {location : Location}
    (found : before.locateNew workingDirectory path = .ok location) :
    after.locateNew workingDirectory path = .ok location := by
  unfold locateNew at found ⊢
  split at found
  · cases found
  · split at found
    · cases found
    · rename_i walked
      rw [walk_of_keepsDirectories keeps walked]
      exact found

/-- One directory more is named by its path. -/
theorem grows_makeDirectory {made : FileTree}
    (success : tree.makeDirectory workingDirectory path = .ok made) :
    Grows workingDirectory path tree made := by
  unfold makeDirectory at success
  cases found : tree.locateNew workingDirectory path with
  | error fault => simp [found] at success
  | ok location =>
    cases stands : tree.node? location with
    | some node => simp [found, stands] at success
    | none =>
      have made_eq : made = tree.put location .directory := by
        simpa [found, stands] using success.symm
      subst made_eq
      have notRoot := locateNew_ne_root found
      have here := tree.node?_put_self notRoot .directory
      have kept : ∀ other node, tree.node? other = some node →
          (tree.put location .directory).node? other = some node := by
        intro other node stood
        rw [node?_put_of_ne tree _ .directory]
        · exact stood
        · rintro rfl
          simp [stood] at stands
      refine ⟨kept, ?_⟩
      intro other absent
      by_cases same : other = location
      · subst same
        exact .inr ⟨here, path, .refl path,
          locate_of_locateNew (fun place => kept place .directory) found fun _ => here⟩
      · rw [node?_put_of_ne tree same .directory]
        exact .inl absent

/-- Ensuring one directory adds at most this directory. -/
theorem grows_ensureDirectory (workingDirectory path : String) (tree : FileTree) :
    Grows workingDirectory path tree (leftBehind (tree.ensureDirectory workingDirectory path)) := by
  unfold ensureDirectory
  cases making : tree.makeDirectory workingDirectory path with
  | ok made => exact grows_makeDirectory making
  | error error =>
    dsimp only
    split
    · exact .refl ..
    · exact .refl ..

/-- The directory that a path lies in is a beginning of it, unless it is the root or nothing. -/
theorem isBeginning_parent {path : String}
    (named : Path.isOnlySlashes (parentAndName path).1 = false) :
    Path.IsBeginning (parentAndName path).1 path := by
  by_cases trailing : Path.fileName path = ""
  · have shown : (parentAndName path).1 = Path.directory (Path.directory path) := by
      rw [parentAndName, if_pos trailing]
    rw [shown] at named ⊢
    have trimmedNamed : Path.isOnlySlashes (Path.directory path) = false := by
      cases slashes : Path.isOnlySlashes (Path.directory path) with
      | false => rfl
      | true =>
        rw [Path.directory_of_isOnlySlashes slashes, slashes] at named
        cases named
    exact (Path.isBeginning_directory named).trans (Path.isBeginning_directory trimmedNamed)
  · have shown : (parentAndName path).1 = Path.directory path := by
      rw [parentAndName, if_neg trailing]
    rw [shown] at named ⊢
    exact Path.isBeginning_directory named

/-- Making directories, whether it succeeds or ends half-way, only adds directories that
beginnings of the path name. -/
theorem grows_makeDirectoriesUpTo (workingDirectory : String) (depth : Nat) (tree : FileTree)
    (path : String) :
    Grows workingDirectory path tree
      (leftBehind (makeDirectoriesUpTo depth tree workingDirectory path)) := by
  induction depth generalizing path with
  | zero => exact .refl ..
  | succ depth inductionHypothesis =>
    rw [makeDirectoriesUpTo]
    dsimp only
    split
    · rename_i outer
      obtain ⟨nonempty, _, absent⟩ := outer
      -- The root is never missing, so what is missing has a name.
      have named : Path.isOnlySlashes (parentAndName path).1 = false := by
        cases slashes : Path.isOnlySlashes (parentAndName path).1 with
        | false => rfl
        | true => simp [tree.holds_of_isOnlySlashes nonempty slashes] at absent
      have begins := isBeginning_parent named
      have outerGrows := inductionHypothesis (parentAndName path).1
      have innerGrows : ∀ made : FileTree, Grows workingDirectory path made
          (leftBehind (if (parentAndName path).2 = "." then .ok made
            else made.ensureDirectory workingDirectory path)) := by
        intro made
        split
        · exact .refl ..
        · exact grows_ensureDirectory ..
      cases making : makeDirectoriesUpTo depth tree workingDirectory (parentAndName path).1 with
      | ok made =>
        rw [making] at outerGrows
        exact outerGrows.trans begins (innerGrows made)
      | error interruption =>
        rw [making] at outerGrows
        dsimp only
        split
        · exact outerGrows.trans begins (innerGrows interruption.tree)
        · exact outerGrows.trans begins (.refl ..)
    · exact grows_ensureDirectory ..

end Growing

section Writing

variable {workingDirectory path : String} {before after : FileTree} {bytes : List UInt8}

/-- Writing a file puts its bytes at one place, where no directory stands. -/
theorem write_eq_ok (success : before.write workingDirectory path bytes = .ok after) :
    ∃ location, before.locateNew workingDirectory path = .ok location ∧
      before.node? location ≠ some .directory ∧ after = before.put location (.file bytes) := by
  unfold write at success
  cases found : before.locateNew workingDirectory path with
  | error fault => cases fault <;> simp [found] at success
  | ok location =>
    refine ⟨location, rfl, ?_⟩
    cases stands : before.node? location with
    | none => simpa [found, stands] using success.symm
    | some node =>
      cases node with
      | directory => simp [found, stands] at success
      | file old => simpa [found, stands] using success.symm

/-- A file is written at any place that may be new, unless a directory stands there. -/
theorem write_of_locateNew {location : Location}
    (found : before.locateNew workingDirectory path = .ok location)
    (free : before.node? location ≠ some .directory) (bytes : List UInt8) :
    before.write workingDirectory path bytes = .ok (before.put location (.file bytes)) := by
  rw [write, found]
  rcases stands : before.node? location with _ | ⟨old⟩ | _
  · simp [stands]
  · simp [stands]
  · exact absurd stands free

/-- After a file was written, all directories are still there. -/
theorem keepsDirectories_put {location : Location}
    (free : before.node? location ≠ some .directory) (node : Node) :
    KeepsDirectories before (before.put location node) := by
  intro other isDirectory
  rw [node?_put_of_ne before _ node]
  · exact isDirectory
  · rintro rfl
    exact free isDirectory

/-- A file that was just written can be written again, over what was written first. -/
theorem write_again {location : Location}
    (found : before.locateNew workingDirectory path = .ok location)
    (free : before.node? location ≠ some .directory) (first second : List UInt8) :
    (before.put location (.file first)).write workingDirectory path second =
      .ok (before.put location (.file second)) := by
  have here := before.node?_put_self (locateNew_ne_root found) (.file first)
  rw [write_of_locateNew (locateNew_of_keepsDirectories (keepsDirectories_put free _) found)
    (by simp [here]), put_put]

end Writing

end FileTree

end ServiceStubs
