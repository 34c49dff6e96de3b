import ServiceStubs.CommandLine

/-!
# Reading what was chosen

A choice says which options are wanted and with which values. It can be written on the command line
in many ways: the options stand in any order, and each in any of its spellings. All of them are read
as the same options, because an option takes exactly the values that stand behind it and changes no
other option. The settings of these options are those that were chosen. Values that start with a
dash, or that are attached to their option, are not looked at here. The main result is
`Choice.read_in_any_order`.
-/

namespace ServiceStubs.Value

section Texts

variable (values : List String)

/-- A list of texts is kept, since its default is the empty list. -/
theorem orElse_texts : orElse (some (.list (values.map .text))) (.list []) =
    .list (values.map .text) := by
  cases values <;> rfl

/-- Values that are all texts are taken as these texts. -/
theorem texts_map_text (index : Nat) : texts (values.map .text) index = .ok values := by
  induction values generalizing index with
  | nil => rfl
  | cons value values inductionHypothesis =>
    rw [List.map_cons, texts, inductionHypothesis]

/-- Texts can be joined. -/
theorem joinItems_texts : joinItems (.list (values.map .text)) = .ok (joined values) := by
  simp only [joinItems, items?, texts_map_text]

end Texts

end ServiceStubs.Value

namespace ServiceStubs.CommandLine

/-- The values given to each option, and none to an option that is left out. -/
abbrev Given := Switch → Option (List String)

namespace Given

/-- What is given after one more use. -/
def add (given : Given) (use : Use) : Given :=
  fun switch => if switch = use.switch then some use.values else given switch

/-- The options in which each option has the values given to it. -/
def options (given : Given) : Options where
  paths := (given .paths).getD []
  excludes := (given .excludes).getD []
  outputDirectory := (given .outputDirectory).elim .unset .ofValues
  importPaths := (given .importPath).getD []
  namespaceName := (given .namespaceName).elim .unset .ofValues
  usePackageNames := (given .usePackageNames).isSome
  useProtoPath := (given .useProtoPath).isSome
  skipFormat := (given .noFormat).isSome
  recursive := (given .recursive).isSome

/-- One use changes its own option only. -/
theorem apply_options (given : Given) {use : Use} (notHelp : use.switch ≠ .help) :
    given.options.apply use = some (given.add use).options := by
  obtain ⟨switch, values⟩ := use
  cases switch with
  | help => exact absurd rfl notHelp
  | _ => simp [Options.apply, options, add]

section Adding

variable {uses : List Use}

/-- An option that is not used keeps what was given to it. -/
theorem foldl_add_of_not_mem (given : Given) {switch : Switch}
    (absent : switch ∉ uses.map Use.switch) : uses.foldl add given switch = given switch := by
  induction uses generalizing given with
  | nil => rfl
  | cons first rest inductionHypothesis =>
    rw [List.map_cons, List.mem_cons, not_or] at absent
    rw [List.foldl_cons, inductionHypothesis _ absent.2, add, if_neg absent.1]

/-- An option that is used once has the values of this use. -/
theorem foldl_add_of_mem (given : Given) (once : (uses.map Use.switch).Nodup) {use : Use}
    (member : use ∈ uses) : uses.foldl add given use.switch = some use.values := by
  induction uses generalizing given with
  | nil => simp at member
  | cons first rest inductionHypothesis =>
    rw [List.map_cons, List.nodup_cons] at once
    rw [List.foldl_cons]
    rcases List.mem_cons.mp member with rfl | later
    · rw [foldl_add_of_not_mem _ once.1, add, if_pos rfl]
    · exact inductionHypothesis _ once.2 later

end Adding

end Given

/-- Whether some values are as many as an option takes. -/
def Arity.fits : Arity → List String → Bool
  | .none, values => values.isEmpty
  | .one, values => values.length == 1
  | .many, values => !values.isEmpty

/-- A use that can be written with its values behind the option. -/
structure Use.IsWritable (use : Use) : Prop where
  notHelp : use.switch ≠ .help
  fits : use.switch.arity.fits use.values = true
  plain : ∀ value ∈ use.values, Text.startsWith value "-" = false

/-- A use with one of the spellings of its option. -/
structure Written where
  use : Use
  spelling : String
  declared : spelling ∈ use.switch.spellings

namespace Written

/-- What stands on the command line. -/
def arguments (written : Written) : List String :=
  written.spelling :: written.use.values

/-- The same, told apart. -/
def classified (written : Written) : List Argument :=
  .switch written.use.switch written.spelling none :: written.use.values.map Argument.value

end Written

section TellingApart

/-- The list of switches is complete. -/
theorem Switch.mem_all (switch : Switch) : switch ∈ Switch.all := by
  cases switch <;> decide

/-- A spelling belongs to one option, and it is no terminator. -/
theorem classify_spelling {switch : Switch} {spelling : String}
    (declared : spelling ∈ switch.spellings) :
    spelling ≠ "--" ∧ classify spelling = .ok (.switch switch spelling none) := by
  have known : ∀ switch ∈ Switch.all, ∀ spelling ∈ switch.spellings,
      Switch.ofSpelling? spelling = some switch ∧ spelling.toList.head? = some '-' ∧
        spelling ≠ "--" := by
    decide
  obtain ⟨found, dash, notTerminator⟩ := known switch switch.mem_all spelling declared
  exact ⟨notTerminator, by simp [classify, dash, found]⟩

/-- A text without a dash in front is a value. -/
theorem classify_plain {value : String} (plain : Text.startsWith value "-" = false) :
    value ≠ "--" ∧ classify value = .ok (.value value) := by
  have noDash : value.toList.head? ≠ some '-' := by
    intro dash
    obtain ⟨rest, spelled⟩ := List.head?_eq_some_iff.mp dash
    simp [Text.startsWith, spelled] at plain
  constructor
  · rintro rfl
    exact absurd plain (by decide)
  · rw [classify, if_pos noDash]

/-- Arguments are classified one by one, up to the mark that ends the switches. -/
theorem classifyAll_cons {text : String} {argument : Argument} {texts : List String}
    {arguments : List Argument}
    (first : text ≠ "--" ∧ classify text = .ok argument)
    (rest : classifyAll texts = .ok arguments) :
    classifyAll (text :: texts) = .ok (argument :: arguments) := by
  simp [classifyAll, first, rest]

/-- Arguments without a dash are values. -/
theorem classifyAll_values {values texts : List String} {arguments : List Argument}
    (plain : ∀ value ∈ values, Text.startsWith value "-" = false)
    (rest : classifyAll texts = .ok arguments) :
    classifyAll (values ++ texts) = .ok (values.map Argument.value ++ arguments) := by
  induction values with
  | nil => exact rest
  | cons value values inductionHypothesis =>
    rw [List.forall_mem_cons] at plain
    exact classifyAll_cons (classify_plain plain.1) (inductionHypothesis plain.2)

/-- Options in any order and spelling are told apart from their values. -/
theorem classifyAll_written {written : List Written}
    (writable : ∀ entry ∈ written, entry.use.IsWritable) :
    classifyAll (written.flatMap Written.arguments) =
      .ok (written.flatMap Written.classified) := by
  induction written with
  | nil => rfl
  | cons entry written inductionHypothesis =>
    rw [List.forall_mem_cons] at writable
    have values := classifyAll_values writable.1.plain (inductionHypothesis writable.2)
    exact classifyAll_cons (classify_spelling entry.declared) values

end TellingApart

section Taking

/-- The values before other arguments are all found. -/
theorem leadingValues_append (values : List String) (rest : List Argument) :
    leadingValues (values.map Argument.value ++ rest) = values ++ leadingValues rest := by
  induction values with
  | nil => rfl
  | cons value values inductionHypothesis =>
    simp [leadingValues, inductionHypothesis]

/-- Before the next option there are no values left. -/
theorem leadingValues_classified (written : List Written) :
    leadingValues (written.flatMap Written.classified) = [] := by
  cases written with
  | nil => rfl
  | cons entry written => rfl

/-- An option takes the values behind it, up to the next option. -/
theorem followingValues_of_fits {switch : Switch} {values : List String}
    (fits : switch.arity.fits values = true) (written : List Written) :
    followingValues switch (values.map Argument.value ++ written.flatMap Written.classified) =
      .ok values := by
  rw [followingValues, leadingValues_append, leadingValues_classified, List.append_nil]
  cases arity : switch.arity with
  | none =>
    rw [arity, Arity.fits, List.isEmpty_iff] at fits
    rw [fits]
  | one =>
    rw [arity, Arity.fits, beq_iff_eq] at fits
    obtain ⟨value, rfl⟩ := List.length_eq_one_iff.mp fits
    rfl
  | many =>
    cases values with
    | nil => simp [arity, Arity.fits] at fits
    | cons first others => rfl

/-- One option is taken with its values, and reading goes on behind them. -/
theorem takeAll_classified (given : Given) {entry : Written} (writable : entry.use.IsWritable)
    (written : List Written) :
    takeAll given.options [] (entry.classified ++ written.flatMap Written.classified) =
      takeAll (given.add entry.use).options [] (written.flatMap Written.classified) := by
  have values := followingValues_of_fits writable.fits written
  rw [Written.classified, List.cons_append, takeAll, usesOf, values]
  simp [given.apply_options writable.notHelp]

/-- All options are taken one after another. -/
theorem takeAll_written (given : Given) {written : List Written}
    (writable : ∀ entry ∈ written, entry.use.IsWritable) :
    takeAll given.options [] (written.flatMap Written.classified) =
      .ok (.run ((written.map Written.use).foldl Given.add given).options) := by
  induction written generalizing given with
  | nil => simp [takeAll]
  | cons entry written inductionHypothesis =>
    rw [List.forall_mem_cons] at writable
    rw [List.flatMap_cons, takeAll_classified given writable.1, inductionHypothesis _ writable.2]
    rfl

/-- A command line of options with their values is read as what it gives to each option. -/
theorem parse_written {written : List Written}
    (writable : ∀ entry ∈ written, entry.use.IsWritable) :
    parse (written.flatMap Written.arguments) =
      .ok (.run ((written.map Written.use).foldl Given.add fun _ => none).options) := by
  rw [parse, classifyAll_written writable]
  exact takeAll_written (fun _ => none) writable

end Taking

/-- What is wanted: the values of options, none of which starts with a dash, and flags. An empty
list stands for an option that is left out. -/
structure Choice where
  paths : List String := []
  excludes : List String := []
  importPaths : List String := []
  outputDirectory : Option String := none
  namespaceName : Option String := none
  usePackageNames : Bool := false
  useProtoPath : Bool := false
  skipFormat : Bool := false
  recursive : Bool := false
  plain : ∀ value ∈ paths ++ excludes ++ importPaths ++ outputDirectory.toList ++
    namespaceName.toList, Text.startsWith value "-" = false

namespace Choice

/-- The values of an option that is written only with values. -/
def listed (values : List String) : Option (List String) :=
  if values = [] then none else some values

/-- The values of an option that is written without values. -/
def flagged (flag : Bool) : Option (List String) :=
  if flag then some [] else none

/-- What is given to each option. -/
def given (choice : Choice) : Given
  | .help => none
  | .paths => listed choice.paths
  | .excludes => listed choice.excludes
  | .outputDirectory => choice.outputDirectory.map fun value => [value]
  | .importPath => listed choice.importPaths
  | .namespaceName => choice.namespaceName.map fun value => [value]
  | .usePackageNames => flagged choice.usePackageNames
  | .useProtoPath => flagged choice.useProtoPath
  | .noFormat => flagged choice.skipFormat
  | .recursive => flagged choice.recursive

/-- The options to write, each once. -/
def uses (choice : Choice) : List Use :=
  Switch.all.filterMap fun switch => (choice.given switch).map (Use.mk switch)

/-- The settings that are wanted, for an output directory. -/
def settings (choice : Choice) (outputDirectory : String) : Settings where
  paths := .list (choice.paths.map Value.text)
  outputDirectory := .text outputDirectory
  excludes := .list (choice.excludes.map Value.text)
  importPaths := .list (choice.importPaths.map Value.text)
  recursive := .truth choice.recursive
  namespaceName := ((choice.namespaceName.filter (· != "")).map Value.text).getD .null
  usePackageNames := .truth choice.usePackageNames
  useProtoPath := .truth choice.useProtoPath
  skipFormat := .truth choice.skipFormat

section Uses

variable (choice : Choice)

/-- A switch is used exactly with the values that are chosen for it. -/
theorem mem_uses_iff {use : Use} :
    use ∈ choice.uses ↔ choice.given use.switch = some use.values := by
  obtain ⟨switch, values⟩ := use
  simp [uses, Switch.mem_all]

/-- Every option is used once at most. -/
theorem nodup_switches : (choice.uses.map Use.switch).Nodup := by
  have chosen : choice.uses.map Use.switch =
      Switch.all.filter fun switch => (choice.given switch).isSome := by
    rw [uses, List.map_filterMap, ← List.filterMap_eq_filter]
    congr 1
    funext switch
    cases values : choice.given switch <;> simp [Option.guard, values]
  rw [chosen]
  exact List.Pairwise.filter _ (by decide)

/-- A list of plain values can be written behind its switch. -/
theorem isWritable_listed {switch : Switch} (many : switch.arity = .many)
    {chosen values : List String} (given : listed chosen = some values)
    (plain : ∀ value ∈ chosen, Text.startsWith value "-" = false) :
    Use.IsWritable ⟨switch, values⟩ := by
  have notHelp : switch ≠ .help := by
    rintro rfl
    cases many
  cases chosen with
  | nil => cases given
  | cons first others =>
    cases given
    exact ⟨notHelp, by simp [many, Arity.fits], plain⟩

/-- A plain value can be written behind its switch. -/
theorem isWritable_single {switch : Switch} (one : switch.arity = .one)
    {chosen : Option String} {values : List String}
    (given : (chosen.map fun value => [value]) = some values)
    (plain : ∀ value ∈ chosen.toList, Text.startsWith value "-" = false) :
    Use.IsWritable ⟨switch, values⟩ := by
  have notHelp : switch ≠ .help := by
    rintro rfl
    cases one
  obtain ⟨value, rfl, rfl⟩ := Option.map_eq_some_iff.mp given
  exact ⟨notHelp, by simp [one, Arity.fits], plain⟩

/-- A flag can be written, as long as it does not ask for help. -/
theorem isWritable_flagged {switch : Switch} (notHelp : switch ≠ .help)
    (none : switch.arity = .none) {flag : Bool} {values : List String}
    (given : flagged flag = some values) : Use.IsWritable ⟨switch, values⟩ := by
  cases flag with
  | false => cases given
  | true =>
    cases given
    exact ⟨notHelp, by simp [none, Arity.fits], by simp⟩

/-- Every option is used with as many values as it takes. -/
theorem isWritable_of_mem_uses {use : Use} (member : use ∈ choice.uses) : use.IsWritable := by
  rw [mem_uses_iff] at member
  obtain ⟨switch, values⟩ := use
  have plain := choice.plain
  simp only [List.mem_append, or_assoc] at plain
  cases switch with
  | help => cases member
  | paths => exact isWritable_listed rfl member fun value inside => plain value (.inl inside)
  | excludes =>
    exact isWritable_listed rfl member fun value inside => plain value (.inr (.inl inside))
  | importPath =>
    exact isWritable_listed rfl member fun value inside => plain value (.inr (.inr (.inl inside)))
  | outputDirectory =>
    exact isWritable_single rfl member fun value inside =>
      plain value (.inr (.inr (.inr (.inl inside))))
  | namespaceName =>
    exact isWritable_single rfl member fun value inside =>
      plain value (.inr (.inr (.inr (.inr inside))))
  | usePackageNames => exact isWritable_flagged (by decide) rfl member
  | useProtoPath => exact isWritable_flagged (by decide) rfl member
  | noFormat => exact isWritable_flagged (by decide) rfl member
  | recursive => exact isWritable_flagged (by decide) rfl member

/-- In whatever order the options are used, each is given what was chosen for it. -/
theorem foldl_add_of_perm {uses : List Use} (arranged : uses.Perm choice.uses) :
    uses.foldl Given.add (fun _ => none) = choice.given := by
  have once : (uses.map Use.switch).Nodup :=
    (arranged.map Use.switch).nodup_iff.mpr choice.nodup_switches
  -- No option is used twice, so that it only matters which uses there are and not where.
  funext switch
  cases chosen : choice.given switch with
  | none =>
    apply Given.foldl_add_of_not_mem
    intro used
    obtain ⟨use, member, rfl⟩ := List.mem_map.mp used
    rw [arranged.mem_iff, mem_uses_iff, chosen] at member
    cases member
  | some values =>
    have member : ⟨switch, values⟩ ∈ choice.uses := choice.mem_uses_iff.mpr chosen
    exact Given.foldl_add_of_mem _ once (arranged.mem_iff.mpr member)

end Uses

section Settings

variable (choice : Choice)

/-- The absence of a list stands for the empty list. -/
theorem getD_listed (values : List String) : (listed values).getD [] = values := by
  unfold listed
  split <;> simp_all

/-- A flag is written exactly if it is set. -/
theorem isSome_flagged (flag : Bool) : (flagged flag).isSome = flag := by
  cases flag <;> rfl

/-- A value that is not given leaves the default. -/
theorem value_single (chosen : Option String) (default : Value) :
    ((chosen.map fun value => [value]).elim Single.unset Single.ofValues).value default =
      (chosen.map Value.text).getD default := by
  cases chosen <;> rfl

/-- The arguments of a run that come from a choice. -/
theorem arguments_given : choice.given.options.arguments = {
    paths := some (.list (choice.paths.map .text))
    outputDirectory := some ((choice.outputDirectory.map .text).getD (.text ""))
    excludes := some (.list (choice.excludes.map .text))
    importPaths := some (.list (choice.importPaths.map .text))
    recursive := some (.truth choice.recursive)
    namespaceName := some ((choice.namespaceName.map .text).getD .null)
    usePackageNames := some (.truth choice.usePackageNames)
    useProtoPath := some (.truth choice.useProtoPath)
    skipFormat := some (.truth choice.skipFormat) } := by
  simp only [Options.arguments, Given.options, given, getD_listed, isSome_flagged, value_single]

/-- An empty name is no name. -/
theorem orElse_name (name : Option String) :
    Value.orElse (some ((name.map Value.text).getD .null)) .null =
      ((name.filter (· != "")).map Value.text).getD .null := by
  cases name with
  | none => rfl
  | some text =>
    by_cases empty : text = "" <;> simp [Value.orElse, Value.isTrue, Option.filter, empty]

/-- With an output directory a choice gives the settings that are wanted. -/
theorem ofArguments_given {directory : String} (chosen : choice.outputDirectory = some directory)
    (nonempty : directory ≠ "") :
    Settings.ofArguments choice.given.options.arguments = .ok (choice.settings directory) := by
  have directoryValue : Value.orElse (some (.text directory)) (.text "") = .text directory := by
    simp [Value.orElse, Value.isTrue, nonempty]
  have directoryTrue : (Value.text directory).isTrue = true := by
    simp [Value.isTrue, nonempty]
  rw [arguments_given, chosen]
  simp only [Settings.ofArguments, settings, Option.map_some, Option.getD_some, directoryValue,
    Value.orElse_texts, orElse_name]
  rw [if_pos directoryTrue]

/-- Without an output directory a choice gives no settings. -/
theorem ofArguments_given_of_missing
    (missing : choice.outputDirectory = none ∨ choice.outputDirectory = some "") :
    Settings.ofArguments choice.given.options.arguments =
      .error (.config (.noOutputDirectory (Value.joined choice.paths))) := by
  have noDirectory : Value.orElse
      (some ((choice.outputDirectory.map Value.text).getD (.text ""))) (.text "") = .text "" := by
    rcases missing with missing | missing <;> rw [missing] <;> rfl
  rw [arguments_given]
  simp only [Settings.ofArguments, noDirectory, Value.orElse_texts]
  rw [if_neg (by decide), Value.joinItems_texts]

end Settings

/-- However a choice is written, with its options in any order and each in any of its spellings, the
command line is accepted. The settings are then exactly those that are wanted, where an empty name
counts as none; and there are none exactly if the output directory is left out or empty. -/
theorem read_in_any_order (choice : Choice) {written : List Written}
    (arranged : (written.map Written.use).Perm choice.uses) :
    ∃ options, parse (written.flatMap Written.arguments) = .ok (.run options) ∧
      (∀ directory, choice.outputDirectory = some directory → directory ≠ "" →
        Settings.ofArguments options.arguments = .ok (choice.settings directory)) ∧
      (choice.outputDirectory = none ∨ choice.outputDirectory = some "" →
        Settings.ofArguments options.arguments =
          .error (.config (.noOutputDirectory (Value.joined choice.paths)))) := by
  have writable : ∀ entry ∈ written, entry.use.IsWritable := by
    intro entry member
    exact choice.isWritable_of_mem_uses (arranged.mem_iff.mp (List.mem_map_of_mem member))
  refine ⟨choice.given.options, ?_, ?_, choice.ofArguments_given_of_missing⟩
  · rw [parse_written writable, choice.foldl_add_of_perm arranged]
  · intro directory chosen nonempty
    exact choice.ofArguments_given chosen nonempty

/-- A choice of two paths, of an include directory with a blank, and of an empty name. -/
def scattered : Choice where
  paths := ["a.proto", "b*"]
  importPaths := ["c d"]
  outputDirectory := some "out"
  namespaceName := some ""
  recursive := true
  plain := by decide

/-- The choice written backwards. -/
def scatteredBackwards : List Written := [
  ⟨⟨.recursive, []⟩, "-r", by decide⟩, ⟨⟨.namespaceName, [""]⟩, "--namespace", by decide⟩,
  ⟨⟨.importPath, ["c d"]⟩, "-I", by decide⟩, ⟨⟨.outputDirectory, ["out"]⟩, "--out", by decide⟩,
  ⟨⟨.paths, ["a.proto", "b*"]⟩, "-p", by decide⟩]

/-- Switches with and without values, in an order other than that of the options. -/
theorem scattered_read_backwards :
    ∃ options,
      parse ["-r", "--namespace", "", "-I", "c d", "--out", "out", "-p", "a.proto", "b*"] =
        .ok (.run options) ∧
      Settings.ofArguments options.arguments = .ok {
        paths := .list [.text "a.proto", .text "b*"], outputDirectory := .text "out"
        importPaths := .list [.text "c d"], recursive := .truth true } := by
  have arranged : (scatteredBackwards.map Written.use).Perm scattered.uses := by decide
  obtain ⟨options, accepted, settled, _⟩ := read_in_any_order scattered arranged
  exact ⟨options, accepted, settled "out" rfl (by decide)⟩

end Choice

end ServiceStubs.CommandLine
