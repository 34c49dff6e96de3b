import ServiceStubs.Path
import ServiceStubs.Proofs.Text.Split

/-!
# Places

An absolute path stands for a place: the names that lead down to it from the root. Joining and
normalizing paths are described here by what they do to places, so that statements about paths
need not speak of slashes. Whether a place exists is not asked.
-/

namespace ServiceStubs.Path

/-- A segment that goes one level down. -/
structure IsName (segment : String) : Prop where
  nonempty : segment ≠ ""
  notHere : segment ≠ "."
  notParent : segment ≠ ".."
  noSlash : '/' ∉ segment.toList

/-- The place that some segments lead to from a place. -/
def walk (start segments : List String) : List String :=
  (segments.foldl (pushSegment true) start.reverse).reverse

/-- The place that an absolute path stands for. -/
def place (path : String) : List String :=
  walk [] (names path)

section Walking

/-- No steps lead nowhere else. -/
@[simp] theorem walk_nil (start : List String) : walk start [] = start := by
  simp [walk]

/-- Walking may be interrupted anywhere. -/
theorem walk_append (start first second : List String) :
    walk start (first ++ second) = walk (walk start first) second := by
  simp [walk]

/-- One name leads one level down. -/
theorem walk_name (start : List String) {name : String} (isName : IsName name) :
    walk start [name] = start ++ [name] := by
  simp [walk, pushSegment, isName.nonempty, isName.notHere, isName.notParent]

/-- A step in place stays where it is. -/
@[simp] theorem walk_here (start : List String) : walk start ["."] = start := by
  simp [walk, pushSegment]

/-- A parent step undoes a name. -/
theorem walk_parent (start : List String) {name : String} (isName : IsName name) :
    walk (start ++ [name]) [".."] = start := by
  simp [walk, pushSegment, isName.notParent]

/-- Names lead down. -/
theorem walk_names (start : List String) {down : List String}
    (areNames : ∀ name ∈ down, IsName name) : walk start down = start ++ down := by
  induction down generalizing start with
  | nil => simp
  | cons name rest inductionHypothesis =>
    rw [List.forall_mem_cons] at areNames
    rw [← List.singleton_append, walk_append, walk_name start areNames.1,
      inductionHypothesis (start ++ [name]) areNames.2, List.append_assoc]

/-- As many parent steps as there are names lead back. -/
theorem walk_parents (start : List String) {down : List String}
    (areNames : ∀ name ∈ down, IsName name) :
    walk (start ++ down) (List.replicate down.length "..") = start := by
  induction down generalizing start with
  | nil => simp
  | cons name rest inductionHypothesis =>
    rw [List.forall_mem_cons] at areNames
    have restBack := inductionHypothesis (start ++ [name]) areNames.2
    rw [List.append_assoc, List.singleton_append] at restBack
    rw [List.length_cons, List.replicate_succ', walk_append, restBack,
      walk_parent start areNames.1]

/-- One more segment keeps names apart from steps: it adds a name, removes one, or does
nothing. -/
theorem isName_pushSegment {reversed : List String} {segment : String}
    (areNames : ∀ name ∈ reversed, IsName name) (noSlash : '/' ∉ segment.toList) :
    ∀ name ∈ pushSegment true reversed segment, IsName name := by
  unfold pushSegment
  split
  · exact areNames
  · rename_i notSkipped
    rw [not_or] at notSkipped
    split
    · cases reversed with
      | nil => simp
      | cons last rest =>
        rw [List.forall_mem_cons] at areNames
        simpa [areNames.1.notParent] using areNames.2
    · rename_i notParent
      rw [List.forall_mem_cons]
      exact ⟨⟨notSkipped.1, notSkipped.2, notParent, noSlash⟩, areNames⟩

/-- A walk from a place ends at a place, which consists of names only. -/
theorem isName_walk {start segments : List String} (areNames : ∀ name ∈ start, IsName name)
    (noSlash : ∀ segment ∈ segments, '/' ∉ segment.toList) :
    ∀ name ∈ walk start segments, IsName name := by
  induction segments generalizing start with
  | nil => simpa using areNames
  | cons segment rest inductionHypothesis =>
    rw [List.forall_mem_cons] at noSlash
    have reversedNames : ∀ name ∈ start.reverse, IsName name := by
      simpa using areNames
    have afterFirst : ∀ name ∈ walk start [segment], IsName name := by
      simpa [walk] using isName_pushSegment reversedNames noSlash.1
    rw [← List.singleton_append, walk_append]
    exact inductionHypothesis afterFirst noSlash.2

end Walking

section Spelling

/-- Where the segments are cut, the names are cut. -/
theorem names_eq_of_segments_append {path left right : String}
    (cut : segments path = segments left ++ segments right) :
    names path = names left ++ names right := by
  simp [names, cut]

/-- The names on both sides of a slash. -/
theorem names_append_slash (left right : String) :
    names (left ++ "/" ++ right) = names left ++ names right :=
  names_eq_of_segments_append (Text.splitString_append '/' left right)

/-- The empty path names nothing. -/
@[simp] theorem names_empty : names "" = [] := by
  decide

/-- A slash at the end of a path gives no name. -/
theorem names_append_of_trailing {base : String} (trailing : base.toList.getLast? = some '/')
    (path : String) : names (base ++ path) = names base ++ names path := by
  obtain ⟨front, spelled⟩ := List.getLast?_eq_some_iff.mp trailing
  have split : base = String.ofList front ++ "/" := by
    rw [← String.toList_inj, spelled]
    simp
  have baseNames : names base = names (String.ofList front) := by
    have cut := names_append_slash (String.ofList front) ""
    simpa [split] using cut
  rw [baseNames, split, names_append_slash]

/-- Joining a relative path puts its names behind those of the base. -/
theorem names_join {path : String} (relative : isAbsolute path = false) (base : String) :
    names (join base path) = names base ++ names path := by
  unfold join
  rw [if_neg (by simp [relative])]
  split
  · rename_i bare
    rcases bare with rfl | trailing
    · simp
    · exact names_append_of_trailing trailing path
  · exact names_append_slash base path

/-- An absolute path is not moved by joining. -/
theorem join_of_isAbsolute {path : String} (rooted : isAbsolute path = true) (base : String) :
    join base path = path := by
  simp [join, rooted]

/-- Whether a path is absolute shows at its start. -/
theorem isAbsolute_append {left : String} (rooted : isAbsolute left = true) (right : String) :
    isAbsolute (left ++ right) = true := by
  unfold isAbsolute at rooted ⊢
  cases spelled : left.toList with
  | nil => simp [spelled] at rooted
  | cons first rest => simpa [spelled] using rooted

/-- Nothing that is joined to an absolute path leaves the root. -/
theorem isAbsolute_join {base : String} (rooted : isAbsolute base = true) (path : String) :
    isAbsolute (join base path) = true := by
  unfold join
  split
  · assumption
  · split
    · exact isAbsolute_append rooted path
    · rw [String.append_assoc]
      exact isAbsolute_append rooted ("/" ++ path)

/-- Names are the segments that are not empty, so they hold no slash. -/
theorem noSlash_of_mem_names {path name : String} (member : name ∈ names path) :
    '/' ∉ name.toList :=
  Text.not_mem_of_mem_splitString (List.mem_filter.mp member).1

/-- Spelling segments with slashes between them keeps them apart. -/
theorem names_joinStrings {steps : List String}
    (clean : ∀ step ∈ steps, step ≠ "" ∧ '/' ∉ step.toList) :
    names (Text.joinStrings "/" steps) = steps := by
  by_cases empty : steps = []
  · subst empty
    decide
  · have cut : segments (Text.joinStrings "/" steps) = steps :=
      Text.splitString_joinStrings empty fun step member => (clean step member).2
    rw [names, cut, List.filter_eq_self]
    intro step member
    simpa using (clean step member).1

/-- A path that is spelled from segments starts with no slash. -/
theorem isAbsolute_joinStrings {steps : List String}
    (clean : ∀ step ∈ steps, step ≠ "" ∧ '/' ∉ step.toList) :
    isAbsolute (Text.joinStrings "/" steps) = false := by
  cases steps with
  | nil => decide
  | cons step rest =>
    have stepClean := clean step (by simp)
    unfold isAbsolute Text.joinStrings
    cases spelled : step.toList with
    | nil => exact absurd (String.toList_eq_nil_iff.mp spelled) stepClean.1
    | cons first others =>
      have notSlash : first ≠ '/' := by
        rintro rfl
        exact stepClean.2 (by simp [spelled])
      cases rest <;> simp [Text.joinWith, spelled, notSlash]

/-- Leading slashes give no name. -/
theorem names_replicate_slash (count : Nat) (path : String) :
    names (String.ofList (List.replicate count '/') ++ path) = names path := by
  induction count with
  | zero => simp
  | succ count inductionHypothesis =>
    have shape : String.ofList (List.replicate (count + 1) '/') ++ path =
        "" ++ "/" ++ (String.ofList (List.replicate count '/') ++ path) := by
      rw [← String.toList_inj]
      simp [List.replicate_succ]
    rw [shape, names_append_slash, names_empty, List.nil_append, inductionHypothesis]

end Spelling

section Normalizing

/-- Empty segments do not move a walk. -/
theorem walk_filter_empty (start segments : List String) :
    walk start (segments.filter (· != "")) = walk start segments := by
  induction segments generalizing start with
  | nil => rfl
  | cons segment rest inductionHypothesis =>
    rw [← List.singleton_append, List.filter_append, walk_append, walk_append,
      inductionHypothesis]
    by_cases empty : segment = ""
    · simp [empty, walk, pushSegment]
    · simp [empty]

/-- Collapsing the segments of an absolute path gives its place. -/
theorem collapse_segments (path : String) : collapse true (segments path) = place path := by
  rw [place, names, walk_filter_empty]
  rfl

/-- Every place consists of names. -/
theorem isName_place (path : String) : ∀ name ∈ place path, IsName name :=
  isName_walk (by simp) fun _ member => noSlash_of_mem_names member

/-- A name is not empty and holds no slash. -/
theorem IsName.clean {segment : String} (isName : IsName segment) :
    segment ≠ "" ∧ '/' ∉ segment.toList :=
  ⟨isName.nonempty, isName.noSlash⟩

/-- A path keeps a leading slash exactly if it has one. -/
theorem rootSlashes_ne_zero {path : String} (rooted : isAbsolute path = true) :
    rootSlashes path ≠ 0 := by
  unfold rootSlashes isAbsolute at *
  cases spelled : path.toList with
  | nil => simp [spelled] at rooted
  | cons first rest =>
    have slash : first = '/' := by simpa [spelled] using rooted
    subst slash
    rw [List.takeWhile_cons_of_pos (by simp)]
    split <;> simp_all

/-- The spelling of a normalized absolute path: its slashes, then its place. -/
theorem normalize_of_isAbsolute {path : String} (rooted : isAbsolute path = true) :
    normalize path =
      String.ofList (List.replicate (rootSlashes path) '/') ++
        Text.joinStrings "/" (place path) := by
  have slashes := rootSlashes_ne_zero rooted
  have isRooted : (rootSlashes path != 0) = true := by simpa using slashes
  unfold normalize
  simp only [isRooted, collapse_segments]
  rw [if_neg]
  intro empty
  have noCharacters := congrArg String.toList empty
  simp [slashes] at noCharacters

/-- The names of a normalized absolute path are those of its place. -/
theorem names_normalize {path : String} (rooted : isAbsolute path = true) :
    names (normalize path) = place path := by
  rw [normalize_of_isAbsolute rooted, names_replicate_slash,
    names_joinStrings fun name member => (isName_place path name member).clean]

/-- An absolute path stays absolute. -/
theorem isAbsolute_normalize {path : String} (rooted : isAbsolute path = true) :
    isAbsolute (normalize path) = true := by
  rw [normalize_of_isAbsolute rooted]
  apply isAbsolute_append
  obtain ⟨count, slashes⟩ := Nat.exists_eq_succ_of_ne_zero (rootSlashes_ne_zero rooted)
  simp [slashes, isAbsolute, List.replicate_succ]

/-- Normalizing does not change the place. -/
theorem place_normalize {path : String} (rooted : isAbsolute path = true) :
    place (normalize path) = place path := by
  rw [place, names_normalize rooted, walk_names [] (isName_place path), List.nil_append]

/-- The place of a joined path: the walk from the base, or the place of an absolute path. -/
theorem place_join (base path : String) :
    place (join base path) =
      if isAbsolute path then place path else walk (place base) (names path) := by
  split
  · rename_i rooted
    rw [join_of_isAbsolute rooted]
  · rename_i relative
    rw [place, names_join (by simpa using relative), walk_append]
    rfl

/-- What is seen from two spellings of one place is one place. -/
theorem place_join_congr {left right : String} (same : place left = place right) (path : String) :
    place (join left path) = place (join right path) := by
  rw [place_join, place_join, same]

/-- A relative path leaves open whether what it is joined to is absolute. -/
theorem isAbsolute_join_of_relative (base : String) {path : String}
    (relative : isAbsolute path = false) : isAbsolute (join base path) = isAbsolute base := by
  cases rooted : isAbsolute base with
  | true => exact isAbsolute_join rooted path
  | false =>
    rw [join, if_neg (by simp [relative])]
    cases spelled : base.toList with
    | nil =>
      have empty : base = "" := String.toList_eq_nil_iff.mp spelled
      simpa [empty] using relative
    | cons first others =>
      have notSlash : first ≠ '/' := by simpa [isAbsolute, spelled] using rooted
      split <;> simp [isAbsolute, spelled, notSlash]

/-- It does not matter in which order three paths are joined. -/
theorem place_join_join (first second third : String) :
    place (join first (join second third)) = place (join (join first second) third) := by
  cases thirdRooted : isAbsolute third with
  | true => rw [join_of_isAbsolute thirdRooted, join_of_isAbsolute thirdRooted,
      join_of_isAbsolute thirdRooted]
  | false =>
    cases secondRooted : isAbsolute second with
    | true => rw [join_of_isAbsolute (isAbsolute_join secondRooted third),
        join_of_isAbsolute secondRooted]
    | false =>
      have relative := (isAbsolute_join_of_relative second thirdRooted).trans secondRooted
      simp only [place_join, relative, secondRooted, thirdRooted, Bool.false_eq_true, if_false]
      rw [names_join thirdRooted, walk_append]

/-- A path leads to the same place from two directories if it is absolute, or if its names do. -/
theorem place_join_eq_iff {left right path : String} :
    place (join left path) = place (join right path) ↔
      isAbsolute path = true ∨
        walk (place left) (names path) = walk (place right) (names path) := by
  rw [place_join, place_join]
  cases isAbsolute path <;> simp

/-- From different directories, names that only lead down never meet. -/
theorem walk_eq_iff_of_names {left right down : List String}
    (areNames : ∀ name ∈ down, IsName name) : walk left down = walk right down ↔ left = right := by
  rw [walk_names left areNames, walk_names right areNames, List.append_left_inj]

end Normalizing

section Seen

variable {workingDirectory : String}

/-- An absolute path is made in an absolute directory. -/
theorem isAbsolute_absolute (rooted : isAbsolute workingDirectory = true) (path : String) :
    isAbsolute (absolute workingDirectory path) = true :=
  isAbsolute_normalize (isAbsolute_join rooted path)

/-- An absolute path names the place that it leads to. -/
theorem names_absolute (rooted : isAbsolute workingDirectory = true) (path : String) :
    names (absolute workingDirectory path) = place (join workingDirectory path) :=
  names_normalize (isAbsolute_join rooted path)

/-- Making a path absolute does not change where it leads. -/
theorem place_absolute (rooted : isAbsolute workingDirectory = true) (path : String) :
    place (absolute workingDirectory path) = place (join workingDirectory path) :=
  place_normalize (isAbsolute_join rooted path)

end Seen

end ServiceStubs.Path
