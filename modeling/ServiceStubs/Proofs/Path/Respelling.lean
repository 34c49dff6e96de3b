import ServiceStubs.Proofs.Path.Directory
import ServiceStubs.Proofs.Path.Place

/-!
# Spellings of one way

Two paths spell one way if they differ in repeated slashes only: they start alike, and their names
are the same. Such paths have one absolute path. A path spells the way that its directory and its
file name spell when they are joined. Whether a way leads anywhere is not asked here.
-/

namespace ServiceStubs.Path

section Cutting

/-- A path that does not end in a slash after a name. -/
def IsTrimmed (path : String) : Prop :=
  isOnlySlashes path = true ∨ fileName path ≠ ""

/-- Nothing follows the last name of a directory. -/
theorem isTrimmed_directory (path : String) : IsTrimmed (directory path) := by
  obtain ⟨_, _, ⟨slashes, _⟩ | ⟨noTrailing, named, _⟩⟩ := exists_slashes path
  · exact .inl slashes
  · refine .inr (fileName_ne_empty_iff.mpr ⟨?_, noTrailing⟩)
    intro empty
    rw [empty] at named
    cases named

/-- A text without slashes is its only name. -/
theorem names_of_noSlash {name : String} (nonempty : name ≠ "") (noSlash : '/' ∉ name.toList) :
    names name = [name] := by
  have alone : segments name = [name] := by
    rw [segments, Text.splitString, Text.splitAt_of_not_mem noSlash]
    simp
  simp [names, alone, nonempty]

/-- Slashes alone are told apart by their number. -/
theorem eq_replicate_of_isOnlySlashes {path : String} (slashes : isOnlySlashes path = true) :
    path = String.ofList (List.replicate path.toList.length '/') := by
  have allSlashes : ∀ character ∈ path.toList, character = '/' := by
    simpa [isOnlySlashes] using slashes
  rw [← String.toList_inj, String.toList_ofList]
  exact List.eq_replicate_of_mem allSlashes

/-- Slashes alone hold no name. -/
theorem names_of_isOnlySlashes {path : String} (slashes : isOnlySlashes path = true) :
    names path = [] := by
  have spelled := eq_replicate_of_isOnlySlashes slashes
  rw [← String.append_empty (s := String.ofList _)] at spelled
  rw [spelled, names_replicate_slash, names_empty]

/-- The names of a path are those of its directory, then its file name. -/
theorem names_directory_append (path : String) :
    names path = names (directory path) ++ names (fileName path) := by
  obtain ⟨count, spelled, ⟨slashes, rfl⟩ | ⟨_, _, positive⟩⟩ := exists_slashes path
  · have shown : path = String.ofList (List.replicate (directory path).toList.length '/') ++
        fileName path := by
      rw [← eq_replicate_of_isOnlySlashes slashes]
      simpa using spelled
    rw [names_of_isOnlySlashes slashes, List.nil_append]
    nth_rewrite 1 [shown]
    exact names_replicate_slash _ _
  · obtain ⟨fewer, rfl⟩ := Nat.exists_eq_add_one.mpr positive
    have shown : path = directory path ++ "/" ++
        (String.ofList (List.replicate fewer '/') ++ fileName path) := by
      refine spelled.trans ?_
      rw [← String.toList_inj]
      simp [List.replicate_succ]
    nth_rewrite 1 [shown]
    rw [names_append_slash, names_replicate_slash]

/-- The file name of a path, if it has one, is its last name. -/
theorem names_of_fileName {path : String} (named : fileName path ≠ "") :
    names path = names (directory path) ++ [fileName path] := by
  rw [names_directory_append, names_of_noSlash named (noSlash_fileName path)]

/-- The last segment of a path is its file name. -/
theorem getLast?_segments (path : String) : (segments path).getLast? = some (fileName path) := by
  have noSlash := noSlash_fileName path
  obtain ⟨count, spelled, shape⟩ := exists_slashes path
  let base := directory path ++ String.ofList (List.replicate count '/')
  have ends : base = "" ∨ base.toList.getLast? = some '/' := by
    rcases shape with ⟨slashes, rfl⟩ | ⟨_, _, positive⟩
    · have allSlashes := eq_replicate_of_isOnlySlashes slashes
      cases length : (directory path).toList.length with
      | zero =>
        left
        simp [base, String.toList_eq_nil_iff.mp (List.length_eq_zero_iff.mp length)]
      | succ fewer =>
        right
        rw [length] at allSlashes
        simp [base, allSlashes, List.replicate_succ']
    · obtain ⟨fewer, rfl⟩ := Nat.exists_eq_add_one.mpr positive
      right
      simp [base, List.replicate_succ']
  have joined : path = join base (fileName path) := by
    rw [join, if_neg (by simp [isAbsolute_of_noSlash noSlash]), if_pos ends]
    exact spelled
  nth_rewrite 1 [joined]
  exact getLast?_segments_join noSlash base

end Cutting

section Starting

/-- What stands behind a path does not change how it starts, unless it adds slashes to slashes. -/
theorem rootSlashes_append {front back : String}
    (stop : isAbsolute back = false ∨ isOnlySlashes front = false) :
    rootSlashes (front ++ back) = rootSlashes front := by
  have same : (front.toList ++ back.toList).takeWhile (· == '/') =
      front.toList.takeWhile (· == '/') := by
    rw [List.takeWhile_append]
    split
    · rename_i whole
      have kept := (List.takeWhile_prefix (· == '/')).eq_of_length whole
      have slashes : isOnlySlashes front = true := by
        rw [isOnlySlashes, ← kept]
        exact List.all_takeWhile
      have backRelative : isAbsolute back = false := by
        rcases stop with relative | named
        · exact relative
        · rw [slashes] at named
          cases named
      have stopped : back.toList.takeWhile (· == '/') = [] := by
        cases spelled : back.toList with
        | nil => rfl
        | cons first others =>
          have notSlash : first ≠ '/' := by simpa [isAbsolute, spelled] using backRelative
          simp [notSlash]
      rw [stopped, List.append_nil, kept]
    · rfl
  simp [rootSlashes, same]

/-- A joined path starts as its base does. -/
theorem rootSlashes_join (base : String) {path : String} (relative : isAbsolute path = false) :
    rootSlashes (join base path) = rootSlashes base := by
  rw [join, if_neg (by simp [relative])]
  split
  · exact rootSlashes_append (.inl relative)
  · rename_i bare
    rw [not_or] at bare
    rw [String.append_assoc]
    apply rootSlashes_append
    right
    obtain ⟨last, ends⟩ := Option.isSome_iff_exists.mp
      (List.getLast?_isSome.mpr fun empty => bare.1 (String.toList_eq_nil_iff.mp empty))
    rw [isOnlySlashes, List.all_eq_false]
    refine ⟨last, List.mem_of_getLast? ends, ?_⟩
    rw [beq_iff_eq]
    rintro rfl
    exact bare.2 ends

/-- A path starts as its directory does. -/
theorem rootSlashes_directory (path : String) :
    rootSlashes (directory path) = rootSlashes path := by
  obtain ⟨count, spelled, shape⟩ := exists_slashes path
  nth_rewrite 2 [spelled]
  rw [String.append_assoc]
  refine (rootSlashes_append ?_).symm
  rcases shape with ⟨_, rfl⟩ | ⟨_, named, _⟩
  · left
    simpa using isAbsolute_of_noSlash (noSlash_fileName path)
  · exact .inr named

/-- An absolute path starts with at least one slash. -/
theorem isAbsolute_iff_rootSlashes {path : String} :
    isAbsolute path = true ↔ rootSlashes path ≠ 0 := by
  refine ⟨rootSlashes_ne_zero, ?_⟩
  intro slashes
  cases rooted : isAbsolute path with
  | true => rfl
  | false =>
    refine absurd ?_ slashes
    have start : rootSlashes ("" ++ path) = rootSlashes "" := rootSlashes_append (.inl rooted)
    rwa [String.empty_append] at start

end Starting

section Spelling

/-- Two paths that differ in repeated slashes only. -/
structure SameWay (left right : String) : Prop where
  start : rootSlashes left = rootSlashes right
  names : names left = names right

/-- A path goes the same way as itself. -/
theorem SameWay.refl (path : String) : SameWay path path :=
  ⟨rfl, rfl⟩

variable {left right : String}

/-- Paths that go the same way are both absolute or both relative. -/
theorem SameWay.isAbsolute_eq (same : SameWay left right) : isAbsolute left = isAbsolute right := by
  rw [Bool.eq_iff_iff, isAbsolute_iff_rootSlashes, isAbsolute_iff_rootSlashes, same.start]

/-- A path and another spelling of its directory, joined with its file name. -/
theorem SameWay.join_fileName {path directory : String} (named : fileName path ≠ "")
    (same : SameWay (Path.directory path) directory) :
    SameWay path (join directory (fileName path)) where
  start := by
    rw [rootSlashes_join directory (isAbsolute_of_noSlash (noSlash_fileName path)), ← same.start,
      rootSlashes_directory]
  names := by
    rw [names_of_fileName named, names_join (isAbsolute_of_noSlash (noSlash_fileName path)),
      same.names, names_of_noSlash named (noSlash_fileName path)]

/-- Spellings of one way have one absolute path. -/
theorem SameWay.absolute_eq {workingDirectory : String}
    (rooted : isAbsolute workingDirectory = true) (same : SameWay left right) :
    absolute workingDirectory left = absolute workingDirectory right := by
  have places : place (join workingDirectory left) = place (join workingDirectory right) := by
    have targets : place left = place right := by rw [place, place, same.names]
    rw [place_join, place_join, same.isAbsolute_eq, targets, same.names]
  have starts : rootSlashes (join workingDirectory left) =
      rootSlashes (join workingDirectory right) := by
    cases leftRooted : isAbsolute left with
    | true =>
      rw [join_of_isAbsolute leftRooted, join_of_isAbsolute (same.isAbsolute_eq ▸ leftRooted),
        same.start]
    | false =>
      rw [rootSlashes_join _ leftRooted, rootSlashes_join _ (same.isAbsolute_eq ▸ leftRooted)]
  rw [absolute, absolute, normalize_of_isAbsolute (isAbsolute_join rooted left),
    normalize_of_isAbsolute (isAbsolute_join rooted right), places, starts]

end Spelling

end ServiceStubs.Path
