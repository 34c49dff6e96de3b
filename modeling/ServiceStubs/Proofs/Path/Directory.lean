import Mathlib.Data.List.TakeWhile
import Mathlib.Tactic.NthRewrite
import ServiceStubs.Path
import ServiceStubs.Proofs.Text.Split

/-!
# Directories and file names

Taking the directory or the file name of a path cuts it at its last slash. The directory is a
beginning of the path and stays absolute; the file name holds no slash and is the last segment of
any path that ends with it. All of this is about spellings; places are not spoken of here.
-/

namespace ServiceStubs.Path

section Directories

/-- A path up to the end of one of its segments: the whole path, or what stands before one of its
slashes. -/
def IsBeginning (start path : String) : Prop :=
  start = path ∨ ∃ rest, path = start ++ "/" ++ rest

/-- A path is a beginning of itself. -/
theorem IsBeginning.refl (path : String) : IsBeginning path path :=
  .inl rfl

/-- The beginning of a beginning is a beginning. -/
theorem IsBeginning.trans {first second third : String} (inner : IsBeginning first second)
    (outer : IsBeginning second third) : IsBeginning first third := by
  rcases outer with rfl | ⟨rest, rfl⟩
  · exact inner
  · rcases inner with rfl | ⟨between, rfl⟩
    · exact .inr ⟨rest, rfl⟩
    · exact .inr ⟨between ++ "/" ++ rest, by simp only [String.append_assoc]⟩

/-- Whether a path consists of slashes only, as the root does and the empty path. -/
def isOnlySlashes (path : String) : Bool :=
  path.toList.all (· == '/')

/-- A file name holds no slash. -/
theorem noSlash_fileName (path : String) : '/' ∉ (fileName path).toList := by
  intro member
  rw [fileName, String.toList_ofList, List.mem_reverse] at member
  have notSlash := List.all_eq_true.mp (List.all_takeWhile (p := (· != '/'))) '/' member
  cases notSlash

/-- A name without slashes is relative. -/
theorem isAbsolute_of_noSlash {name : String} (noSlash : '/' ∉ name.toList) :
    isAbsolute name = false := by
  cases spelled : name.toList with
  | nil => simp [isAbsolute, spelled]
  | cons first others =>
    rw [spelled, List.mem_cons, not_or] at noSlash
    simpa [isAbsolute, spelled] using Ne.symm noSlash.1

/-- A path is its directory, slashes, and its file name. Without slashes between them the
directory is the root or nothing. -/
theorem exists_slashes (path : String) :
    ∃ count, path = directory path ++ String.ofList (List.replicate count '/') ++ fileName path ∧
      (isOnlySlashes (directory path) = true ∧ count = 0 ∨
        (directory path).toList.getLast? ≠ some '/' ∧ isOnlySlashes (directory path) = false ∧
          0 < count) := by
  let name := path.toList.reverse.takeWhile (· != '/')
  let slashed := path.toList.reverse.dropWhile (· != '/')
  have spelled : path.toList = slashed.reverse ++ name.reverse := by
    rw [← List.reverse_append, List.takeWhile_append_dropWhile, List.reverse_reverse]
  by_cases bare : slashed.all (· == '/') = true
  · have shown : directory path = String.ofList slashed := if_pos bare
    have allSlashes : ∀ character ∈ slashed, character = '/' := by simpa using bare
    have palindrome : slashed.reverse = slashed := by
      rw [List.eq_replicate_of_mem allSlashes, List.reverse_replicate]
    refine ⟨0, ?_, .inl ⟨?_, rfl⟩⟩
    · rw [← String.toList_inj, spelled, palindrome, shown]
      simp [fileName, name]
    · rw [shown, isOnlySlashes, String.toList_ofList, bare]
  · let slashes := slashed.takeWhile (· == '/')
    let inner := slashed.dropWhile (· == '/')
    have shown : directory path = String.ofList inner.reverse := if_neg bare
    have allSlashes : ∀ character ∈ slashes, character = '/' := by
      simpa using List.all_eq_true.mp (List.all_takeWhile (p := (· == '/')) (l := slashed))
    have innerHead : ∀ character, inner.head? = some character → character ≠ '/' := by
      intro character head
      have stopped := List.head?_dropWhile_not (· == '/') slashed
      rw [show (slashed.dropWhile (· == '/')).head? = some character from head] at stopped
      simpa using stopped
    -- Behind the name, read backwards, the next character is a slash.
    have firstSlash : ∀ character, slashed.head? = some character → character = '/' := by
      intro character head
      have stopped := List.head?_dropWhile_not (· != '/') path.toList.reverse
      rw [show (path.toList.reverse.dropWhile (· != '/')).head? = some character from head]
        at stopped
      simpa using stopped
    have nonempty : 0 < slashes.length := by
      cases cut : slashed with
      | nil => simp [cut] at bare
      | cons character others => simp [slashes, cut, firstSlash character (by simp [cut])]
    have cut : slashed = slashes ++ inner := List.takeWhile_append_dropWhile.symm
    refine ⟨slashes.length, ?_, .inr ⟨?_, ?_, nonempty⟩⟩
    · rw [shown, ← String.toList_inj, spelled]
      calc slashed.reverse ++ name.reverse
        _ = inner.reverse ++ slashes.reverse ++ name.reverse := by rw [cut, List.reverse_append]
        _ = inner.reverse ++ List.replicate slashes.length '/' ++ name.reverse := by
          rw [List.eq_replicate_of_mem allSlashes, List.reverse_replicate, List.length_replicate]
        _ = _ := by simp [fileName, name]
    · rw [shown, String.toList_ofList, List.getLast?_reverse]
      intro head
      exact innerHead '/' head rfl
    · cases slashesOnly : isOnlySlashes (directory path) with
      | false => rfl
      | true =>
        rw [shown, isOnlySlashes, String.toList_ofList, List.all_reverse] at slashesOnly
        refine absurd ?_ bare
        rw [cut, List.all_append, Bool.and_eq_true]
        exact ⟨List.all_takeWhile, slashesOnly⟩

/-- The directory of a path is a beginning of it, unless it is the root or nothing. -/
theorem isBeginning_directory {path : String} (named : isOnlySlashes (directory path) = false) :
    IsBeginning (directory path) path := by
  obtain ⟨count, spelled, ⟨slashes, _⟩ | ⟨_, _, positive⟩⟩ := exists_slashes path
  · rw [slashes] at named
    cases named
  · obtain ⟨fewer, rfl⟩ := Nat.exists_eq_add_one.mpr positive
    refine .inr ⟨String.ofList (List.replicate fewer '/') ++ fileName path, spelled.trans ?_⟩
    rw [← String.toList_inj]
    simp [List.replicate_succ]

/-- Slashes alone lie in no other directory. -/
theorem directory_of_isOnlySlashes {path : String} (slashes : isOnlySlashes path = true) :
    directory path = path := by
  have allSlashes : ∀ character ∈ path.toList.reverse, character = '/' := by
    simpa [isOnlySlashes] using slashes
  have kept : path.toList.reverse.dropWhile (· != '/') = path.toList.reverse := by
    cases reversed : path.toList.reverse with
    | nil => rfl
    | cons first others =>
      rw [allSlashes first (by simp [reversed]), List.dropWhile_cons_of_neg (by simp)]
  have palindrome : path.toList.reverse = path.toList := by
    rw [List.eq_replicate_of_mem allSlashes, List.length_reverse]
    exact (List.eq_replicate_of_mem fun character member =>
      allSlashes character (List.mem_reverse.mpr member)).symm
  unfold directory
  rw [kept, if_pos (by simpa using allSlashes), palindrome, String.ofList_toList]

/-- A path starts at the root exactly if its directory does. -/
theorem isAbsolute_directory (path : String) : isAbsolute (directory path) = isAbsolute path := by
  obtain ⟨count, spelled, shape⟩ := exists_slashes path
  rcases cut : (directory path).toList with _ | ⟨first, others⟩
  · have empty : directory path = "" := String.toList_eq_nil_iff.mp cut
    have noSlashes : count = 0 := by
      rcases shape with ⟨_, none⟩ | ⟨_, named, _⟩
      · exact none
      · rw [empty] at named
        cases named
    have alone : path = fileName path := by
      rw [empty, noSlashes] at spelled
      simpa using spelled
    rw [empty, alone, isAbsolute_of_noSlash (noSlash_fileName path)]
    rfl
  · nth_rewrite 2 [spelled]
    simp [isAbsolute, cut]

end Directories

section FileNames

/-- A path ends in a file name unless it ends in a slash. -/
theorem fileName_ne_empty_iff {path : String} :
    fileName path ≠ "" ↔ path ≠ "" ∧ path.toList.getLast? ≠ some '/' := by
  cases reversed : path.toList.reverse with
  | nil =>
    have empty : path = "" := String.toList_eq_nil_iff.mp (List.reverse_eq_nil_iff.mp reversed)
    simp [empty, fileName]
  | cons last others =>
    have nonempty : path ≠ "" := by
      rintro rfl
      cases reversed
    rw [← List.head?_reverse, fileName, reversed]
    by_cases slash : last = '/' <;> simp [slash, nonempty]

/-- A path without slashes is a file name. -/
theorem fileName_of_noSlash {name : String} (noSlash : '/' ∉ name.toList) :
    fileName name = name := by
  rw [fileName, List.takeWhile_eq_self_iff.mpr, List.reverse_reverse, String.ofList_toList]
  intro character member
  rw [bne_iff_ne]
  rintro rfl
  exact noSlash (List.mem_reverse.mp member)

/-- What is joined keeps its file name at the end. -/
theorem fileName_join_ne_empty {path : String} (named : fileName path ≠ "") (base : String) :
    fileName (join base path) ≠ "" := by
  rw [fileName_ne_empty_iff] at named ⊢
  have characters : path.toList ≠ [] := fun empty => named.1 (String.toList_eq_nil_iff.mp empty)
  have ends : ∀ front : String, (front ++ path).toList.getLast? = path.toList.getLast? := by
    intro front
    rw [String.toList_append, List.getLast?_append,
      Option.or_of_isSome (List.getLast?_isSome.mpr characters)]
  unfold join
  split
  · exact named
  · split
    · rw [ends]
      exact ⟨by simp [named.1], named.2⟩
    · rw [ends]
      exact ⟨by simp [named.1], named.2⟩

/-- The last segment of a path below a directory. -/
theorem getLast?_segments_join {name : String} (noSlash : '/' ∉ name.toList) (base : String) :
    (segments (join base name)).getLast? = some name := by
  have alone : segments name = [name] := by
    rw [segments, Text.splitString, Text.splitAt_of_not_mem noSlash]
    simp
  have relative := isAbsolute_of_noSlash noSlash
  have behindSlash : ∀ front, (segments (front ++ "/" ++ name)).getLast? = some name := by
    intro front
    have cut : segments (front ++ "/" ++ name) = segments front ++ segments name :=
      Text.splitString_append '/' front name
    rw [cut, alone, List.getLast?_concat]
  unfold join
  rw [if_neg (by simp [relative])]
  split
  · rename_i bare
    rcases bare with rfl | trailing
    · rw [String.empty_append, alone]
      rfl
    · obtain ⟨front, spelled⟩ := List.getLast?_eq_some_iff.mp trailing
      have split : base = String.ofList front ++ "/" := by
        rw [← String.toList_inj, spelled]
        simp
      rw [split]
      exact behindSlash _
  · exact behindSlash base

/-- A module is named by one segment. -/
theorem noSlash_moduleFileName (path : String) : '/' ∉ (moduleFileName path).toList := by
  have ending : '/' ∉ Name.moduleSuffix.toList := by decide
  have source : '/' ∉ (sourceName path).toList := by
    rw [sourceName]
    split
    · rw [String.toList_ofList]
      exact fun member => noSlash_fileName path (List.mem_of_mem_take member)
    · exact noSlash_fileName path
  rw [moduleFileName, String.toList_append, List.mem_append, not_or]
  exact ⟨source, ending⟩

/-- A module has a file name. -/
theorem moduleFileName_ne_empty (path : String) : moduleFileName path ≠ "" := by
  intro empty
  have noCharacters := congrArg String.toList empty
  simp [moduleFileName, Name.moduleSuffix] at noCharacters

end FileNames

end ServiceStubs.Path
