import ServiceStubs.Proofs.FileTree.Growth
import ServiceStubs.Proofs.Generate.Action

/-!
# What a run does to the tree

A run that succeeds has written one file, and made the directories on the way to it. The steps
before the module is complete keep the tree (`Environment.keepsTree_compose`), so all that happens
is told by `Environment.stores_outcome`. A run that fails has changed no file, with two exceptions:
the file is opened, and so emptied, before it turns out that the module has no bytes, and it is
complete before it turns out that the hint cannot be printed. Only texts that an encoding refuses
lead there.
-/

namespace ServiceStubs

namespace Text.Encoding

/-- A text is refused for its characters only. -/
theorem refusal?_eq_none_iff {encoding : Encoding} {text : String} :
    encoding.refusal? text = none ↔
      ∀ character ∈ text.toList, encoding.refuses character = false := by
  rw [refusal?]
  constructor
  · intro accepted
    have whole : text.toList.drop
        (text.toList.takeWhile fun character => !encoding.refuses character).length = [] := by
      split at accepted
      · assumption
      · cases accepted
    rw [List.drop_eq_nil_iff] at whole
    have all := (List.takeWhile_prefix (l := text.toList)
      fun character => !encoding.refuses character).eq_of_length_le whole
    rw [List.takeWhile_eq_self_iff] at all
    simpa using all
  · intro accepted
    have all : text.toList.takeWhile (fun character => !encoding.refuses character) =
        text.toList := by
      rw [List.takeWhile_eq_self_iff]
      simpa using accepted
    rw [all, List.drop_length]

end Text.Encoding

namespace FileTree

/-- Trees with the same files, each with the same bytes. -/
def SameFiles (before after : FileTree) : Prop :=
  ∀ location bytes,
    after.node? location = some (.file bytes) ↔ before.node? location = some (.file bytes)

/-- What writing one file at a place does to a tree, with the directories made for it: no other
file is changed, nothing is removed, and what is new apart from the file are directories that
beginnings of the path of its directory name. -/
structure Gains (workingDirectory directory : String) (location : Location) (bytes : List UInt8)
    (before after : FileTree) : Prop where
  isFile : after.node? location = some (.file bytes)
  otherFiles : ∀ other, other ≠ location → ∀ bytes,
    after.node? other = some (.file bytes) ↔ before.node? other = some (.file bytes)
  directoriesKept : KeepsDirectories before after
  directoriesNamed : ∀ other, after.node? other = some .directory →
    before.node? other = some .directory ∨
      ∃ start, Path.IsBeginning start directory ∧
        after.locate workingDirectory start = .ok other

/-- One file was written by its path. -/
def GainsFile (workingDirectory directory path : String) (bytes : List UInt8)
    (before after : FileTree) : Prop :=
  ∃ location, after.locate workingDirectory path = .ok location ∧
    Gains workingDirectory directory location bytes before after

variable {workingDirectory path : String} {before middle : FileTree}

/-- Making directories changes no file. -/
theorem Grows.sameFiles (grows : Grows workingDirectory path before middle) :
    SameFiles before middle := by
  intro location bytes
  constructor
  · intro stands
    cases stood : before.node? location with
    | some node =>
      have kept := grows.kept location node stood
      rw [stands] at kept
      exact kept.symm
    | none =>
      rcases grows.new location stood with absent | ⟨isDirectory, _⟩
      · simp [stands] at absent
      · simp [stands] at isDirectory
  · exact grows.kept location (.file bytes)

/-- Directories are made first, then the file is put among them. -/
theorem Grows.gains_put (grows : Grows workingDirectory path before middle) {location : Location}
    (notRoot : location ≠ []) (free : middle.node? location ≠ some .directory)
    (bytes : List UInt8) :
    Gains workingDirectory path location bytes before (middle.put location (.file bytes)) := by
  have keeps := keepsDirectories_put free (.file bytes)
  have here := middle.node?_put_self notRoot (.file bytes)
  refine ⟨here, ?_, ?_, ?_⟩
  · intro other apart otherBytes
    rw [node?_put_of_ne middle apart]
    exact grows.sameFiles other otherBytes
  · exact fun other isDirectory => keeps other (grows.keepsDirectories other isDirectory)
  · intro other isDirectory
    have apart : other ≠ location := by
      rintro rfl
      simp [here] at isDirectory
    rw [node?_put_of_ne middle apart] at isDirectory
    cases stood : before.node? other with
    | some node =>
      have kept := grows.kept other node stood
      rw [isDirectory] at kept
      exact .inl kept.symm
    | none =>
      rcases grows.new other stood with absent | ⟨_, start, begins, named⟩
      · simp [isDirectory] at absent
      · exact .inr ⟨start, begins, locate_of_keepsDirectories keeps named⟩

end FileTree

namespace Environment

open ServiceStubs.Action FileTree

variable (environment : Environment) (settings : Settings)

/-- The path of the file for a module that is named after a schema file. -/
def modulePath (root outputDirectory source : String) : String :=
  Path.join (Path.join root outputDirectory) (Path.moduleFileName source)

/-- The path of a module does not end with a slash. -/
theorem getLast?_segments_modulePath (root outputDirectory source : String) :
    (Path.segments (modulePath root outputDirectory source)).getLast? ≠ some "" := by
  rw [modulePath, Path.getLast?_segments_join (Path.noSlash_moduleFileName source)]
  simpa using Path.moduleFileName_ne_empty source

/-- All ways in which storing a module may end, with what is left of a tree. -/
inductive Stores (root source text : String) (before : FileTree) :
    Except Failure String → FileTree → Prop where
  /-- The output directory is no text, and nothing is done. -/
  | unusable {fault : Value.Fault} : Stores root source text before (.error (.value fault)) before
  /-- Directories are made, but they or the file cannot be had. -/
  | stopped {outputDirectory : String} {error : PathError} {after : FileTree}
      (given : settings.outputDirectory = .text outputDirectory)
      (grows : Grows environment.workingDirectory (Path.join root outputDirectory) before after) :
      Stores root source text before (.error (.path error)) after
  /-- The file is opened, but the text has no bytes. -/
  | refused {outputDirectory : String} {refusal : Text.Encoding.Refusal} {after : FileTree}
      (given : settings.outputDirectory = .text outputDirectory)
      (noBytes : environment.encoding.refusal? text = some refusal)
      (emptied : GainsFile environment.workingDirectory (Path.join root outputDirectory)
        (modulePath root outputDirectory source) [] before after) :
      Stores root source text before (.error (.unencodable refusal)) after
  /-- The file is written. -/
  | completed {outputDirectory path : String} {after : FileTree}
      (given : settings.outputDirectory = .text outputDirectory)
      (named : path = modulePath root outputDirectory source)
      (hasBytes : environment.encoding.refusal? text = none)
      (written : GainsFile environment.workingDirectory (Path.join root outputDirectory) path
        (Text.Utf8.encode text) before after) :
      Stores root source text before (.ok path) after

/-- A file is written as its path allows, and otherwise the tree stays as it is. -/
theorem outcome_write (path : String) (bytes : List UInt8) (session : Session) :
    (environment.write path bytes).outcome session =
      match session.tree.write environment.workingDirectory path bytes with
      | .ok written => (.ok (), { session with tree := written })
      | .error error => (.error (.path error), session) := by
  rw [write, outcome_changeTree]
  cases session.tree.write environment.workingDirectory path bytes with
  | ok written => rfl
  | error error => rfl

/-- Once its directory is there and no directory is in its place, the file of a module gets the
bytes of the text, or is left empty if the text has none. -/
theorem outcome_store {root outputDirectory source : String} {session : Session}
    {middle : FileTree} {location : Location}
    (given : settings.outputDirectory = .text outputDirectory)
    (made : session.tree.makeDirectories environment.workingDirectory
      (Path.join root outputDirectory) = .ok middle)
    (found : middle.locateNew environment.workingDirectory
      (modulePath root outputDirectory source) = .ok location)
    (free : middle.node? location ≠ some .directory) (text : String) :
    (environment.store settings root source text).outcome session =
      match environment.encoding.refusal? text with
      | some refusal =>
        (.error (.unencodable refusal),
          { session with tree := middle.put location (.file []) })
      | none =>
        (.ok (modulePath root outputDirectory source), { session with
          tree := middle.put location (.file (Text.Utf8.encode text))
          notices := session.notices ++ [.written (modulePath root outputDirectory source)] }) := by
  rw [store, given, outcome_bind]
  dsimp only [Value.pathPart, demand, outcome_pure]
  rw [outcome_bind, outcome_changeTree, made]
  dsimp only
  rw [← modulePath, outcome_bind, outcome_write, write_of_locateNew found free]
  dsimp only
  rw [outcome_bind, outcome_encodable]
  cases environment.encoding.refusal? text with
  | some refusal => rfl
  | none =>
    dsimp only
    rw [outcome_bind, outcome_write, write_again found free]
    rfl

/-- Storing a module ends in one of these ways. -/
theorem stores_outcome (root source text : String) (session : Session) :
    environment.Stores settings root source text session.tree
      ((environment.store settings root source text).outcome session).1
      ((environment.store settings root source text).outcome session).2.tree := by
  cases given : settings.outputDirectory with
  | text outputDirectory =>
    have grows := grows_makeDirectoriesUpTo environment.workingDirectory
      ((Path.join root outputDirectory).length + 1) session.tree (Path.join root outputDirectory)
    rw [← makeDirectories] at grows
    cases making : session.tree.makeDirectories environment.workingDirectory
        (Path.join root outputDirectory) with
    | error interruption =>
      rw [making] at grows
      rw [store, given, outcome_bind]
      dsimp only [Value.pathPart, demand, outcome_pure]
      rw [outcome_bind, outcome_changeTree, making]
      exact .stopped given grows
    | ok middle =>
      rw [making] at grows
      cases opening : middle.write environment.workingDirectory
          (modulePath root outputDirectory source) [] with
      | error error =>
        rw [store, given, outcome_bind]
        dsimp only [Value.pathPart, demand, outcome_pure]
        rw [outcome_bind, outcome_changeTree, making]
        dsimp only
        rw [← modulePath, outcome_bind, outcome_write, opening]
        exact .stopped given grows
      | ok opened =>
        obtain ⟨location, found, free, rfl⟩ := write_eq_ok opening
        have gains (bytes : List UInt8) : GainsFile environment.workingDirectory
            (Path.join root outputDirectory) (modulePath root outputDirectory source) bytes
            session.tree (middle.put location (.file bytes)) :=
          ⟨location, locate_of_locateNew (keepsDirectories_put free _) found fun trailing =>
              absurd trailing (getLast?_segments_modulePath root outputDirectory source),
            grows.gains_put (locateNew_ne_root found) free bytes⟩
        rw [environment.outcome_store settings given making found free]
        cases hasBytes : environment.encoding.refusal? text with
        | some refusal => exact .refused given hasBytes (gains [])
        | none => exact .completed given rfl hasBytes (gains _)
  | _ =>
    rw [store, given]
    exact .unusable

/-- Settings that select schema files give those of the tree as it is. -/
theorem outcome_sources (root : String) (session : Session) :
    (environment.sources settings root).outcome session =
      match settings.selection with
      | .ok selection =>
        (.ok ((environment.reading selection).sources session.tree environment.workingDirectory
          root), session)
      | .error fault => (.error (.value fault), session) := by
  rw [sources, outcome_bind]
  cases settings.selection with
  | ok selection => rfl
  | error fault => rfl

/-- A run gets as far as the text of a module: its arguments are settings, some schema files were
found, and the text was composed for them. -/
structure Composes (arguments : Arguments) (root : String) (session : Session)
    (settings : Settings) (paths : List String) (text : String) : Prop where
  parsed : Settings.ofArguments arguments = .ok settings
  found : ∃ selection, settings.selection = .ok selection ∧
    (environment.reading selection).sources session.tree environment.workingDirectory root = paths
  composed : ∃ between, (environment.compose settings paths root).outcome
    { session with notices := session.notices ++ [.sourcesFound paths] } = (.ok text, between)

/-- What is left of a tree when a run has failed: no directory is removed, and files are changed in
two cases only. -/
structure FailsWith (arguments : Arguments) (root : String) (session : Session)
    (failure : Failure) (after : FileTree) : Prop where
  directoriesKept : KeepsDirectories session.tree after
  untouched : (∀ error, failure ≠ .path error) → (∀ refusal, failure ≠ .unencodable refusal) →
    after = session.tree
  files : SameFiles session.tree after ∨
    ∃ settings outputDirectory first others text refusal,
      environment.Composes arguments root session settings (first :: others) text ∧
      settings.outputDirectory = .text outputDirectory ∧ failure = .unencodable refusal ∧
      -- The module has no bytes, and its file was emptied for it.
      (environment.encoding.refusal? text = some refusal ∧
          GainsFile environment.workingDirectory (Path.join root outputDirectory)
            (modulePath root outputDirectory first) [] session.tree after ∨
        -- The module is complete, but the hint after it cannot be printed.
        environment.encoding.refusal? text = none ∧
          environment.console.refusal? (environment.hint outputDirectory first root) =
            some refusal ∧
          GainsFile environment.workingDirectory (Path.join root outputDirectory)
            (modulePath root outputDirectory first) (Text.Utf8.encode text) session.tree after)

namespace FailsWith

variable {environment settings} {arguments : Arguments} {root first text : String}
  {others : List String} {session : Session} {failure : Failure} {after : FileTree}

/-- Where every character has bytes, a failed run changes no file. -/
theorem sameFiles (fails : environment.FailsWith arguments root session failure after)
    (whole : ∀ character, environment.surrogate? character = none)
    (shown : ∀ character, environment.console.refused? character = none) :
    SameFiles session.tree after := by
  rcases fails.files with same | ⟨_, _, _, _, _, _, _, _, _, ⟨noBytes, _⟩ |
    ⟨_, unprintable, _⟩⟩
  · exact same
  · rw [Text.Encoding.refusal?_eq_none_iff.mpr
      (by simp [encoding, Text.Encoding.utf8, Text.Encoding.refuses, whole])] at noBytes
    cases noBytes
  · rw [Text.Encoding.refusal?_eq_none_iff.mpr
      (by simp [Text.Encoding.refuses, shown])] at unprintable
    cases unprintable

end FailsWith

end Environment

end ServiceStubs
